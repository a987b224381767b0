import BrokerSession.Proofs.Session.Listen
import BrokerSession.Proofs.Session.Pull

/-!
# An operation raced against a faulty event

`raceWithEvent kind scope op` subscribes a receiver to the bus, takes a token below `scope` and
runs `op` against a listener: a one-shot wait for an event of `kind` that answers the event's
fault and never answers otherwise. A poll decides the race as soon as a part finishes, so its
runs are prompt ones (`PromptFinishes`).

Main statement (`raceWithEvent_answers`). Among an environment that leaves the receiver where
it is, and for an operation that does too (`SparesReceiver`), the race answers

* a fault `f` only when, at a point of a run of `op` where `op` had not finished, the first
  event of the kind emitted since the subscription and still kept carried `f`; `op` is dropped
  right there, with nothing more of it run;
* otherwise what a run of `op` answers, with no faulty event of the kind passed by the receiver;

and either way it then drops the receiver and cancels its token.

The proof follows the two parts together (`Racing`): the operation at the end of a run of its
own, in which the environment's moves and the listener's scans are moves of its environment
(`WithScans`); the listener waiting, quiet after a clean event or a cancellation, or having
heard a fault (`Hearing`). One lemma for each kind of move keeps the invariant, and
`PromptFinishes.first_invariant` carries it to the move that decides the race.
-/

namespace BrokerSession

open Proc

namespace Bus

variable {b : Bus} {rx : Nat}

/-- Receiver `rx` has passed no faulty event of `kind` since `p₀` that the bus still keeps. -/
abbrev Unfaulted (b : Bus) (rx : Nat) (kind : EventKind) (p₀ : Nat) : Prop :=
  b.Behind rx kind p₀ fun e => e.fault? = none

/-- A receiver that has read everything is behind every event still to come. -/
theorem behind_of_caughtUp {kind : EventKind} {Q : BrokerEvent → Prop} (h : b.CaughtUp rx) :
    b.Behind rx kind b.log.size Q :=
  ⟨b.log.size, h, le_rfl, le_rfl, fun _ _ h₀ hj => absurd hj (Nat.not_lt.2 h₀)⟩

theorem lookup_unsubscribe_self (b : Bus) (rx : Nat) :
    (b.unsubscribe rx).receivers.lookup rx = none := by
  unfold unsubscribe
  induction b.receivers with
  | nil => rfl
  | cons x l ih =>
    obtain ⟨r, p⟩ := x
    by_cases hr : r = rx
    · subst hr
      simpa only [List.filter_cons, bne_self_eq_false, Bool.false_eq_true, if_false] using ih
    · have hb : (rx == r) = false := beq_eq_false_iff_ne.2 (Ne.symm hr)
      simpa only [List.filter_cons, bne_iff_ne, ne_eq, hr, not_false_eq_true, if_true,
        List.lookup_cons, hb] using ih

end Bus

/-- The world once a race has subscribed its receiver and taken its token below `scope`. -/
def World.raceBegun (w : World) (scope : Nat) : World :=
  { w with bus := w.bus.subscribe.2, tokens := (w.tokens.child scope).2 }

/-- The world once a race has dropped receiver `rx` and cancelled `token`. -/
def World.raceEnded (w : World) (rx token : Nat) : World :=
  { w with bus := w.bus.unsubscribe rx, tokens := w.tokens.cancel token }

/-- What the listener does with the wait's answer: a fault is the listener's answer, and
anything else leaves the race to the operation. -/
def faultOf : Except Fault Resolution → Act Fault
  | .error e => .pure e
  | .ok _ => never

theorem faultListener_eq (rx : Nat) (kind : EventKind) (token : Nat) :
    Act.faultListener rx kind token = (Act.awaitOnce rx kind none false token).bind faultOf := by
  show (Act.awaitOnce rx kind none false token).bind _ = _
  congr 1

/-- `op` moves the bus only in ways that leave receiver `rx` where it is: it keeps whatever
holds of the bus and survives such moves. -/
def SparesReceiver {α : Type} (rx : Nat) (op : Act α) : Prop :=
  ∀ P : Bus → Prop, (∀ b b', P b → Bus.Aside rx b b' → P b') → Keeps (fun w => P w.bus) True op

/-- The moves a raced operation sees beside its own steps: those of the environment, and the
scans of the listener's receiver `rx`. -/
def WithScans (R : Nat × World → Nat × World → Prop) (rx : Nat) (kind : EventKind)
    (x y : Nat × World) : Prop :=
  R x y ∨ (y.1 = x.1 ∧ y.2 = x.2.afterScan rx kind)

section States

variable {β : Type} (R : Nat × World → Nat × World → Prop) (rx : Nat) (kind : EventKind)
  (token p₀ t₀ : Nat) (s₀ : World) (op : Act (Except Fault β))

/-- Where the raced operation stands at time `t` in world `s`: unfinished, at the end of a run
of its own from where the race began; or finished from the start, with nothing emitted since. -/
inductive OpAt (t : Nat) (s : World) (q : Act (Except Fault β)) : Prop
  | running : q.result? = none → Reaches (WithScans R rx kind) t₀ s₀ op t s q → OpAt t s q
  | ready {c : Except Fault β} : q = .pure c → op = .pure c → s.bus.log.size = p₀ → OpAt t s q

/-- Where the listener stands at time `t` in world `s`, with what the operation `q` keeps
meanwhile. -/
inductive Hearing (t : Nat) (s : World) (q : Act (Except Fault β)) : Act Fault → Prop
  /-- waiting, with nothing of its kind passed -/
  | listening {w : Act (Except Fault Resolution)} :
      Waiting rx kind none false token p₀ t₀ t s w → w.result? = none →
      Keeps (fun w : World => w.bus.Listening rx kind p₀) True q →
      Keeps (fun w : World => w.bus.Unfaulted rx kind p₀) True q → Hearing t s q (w.bind faultOf)
  /-- answered without a fault, having passed no faulty event of its kind: it never finishes -/
  | quiet : s.bus.Unfaulted rx kind p₀ → Keeps (fun w : World => w.bus.Unfaulted rx kind p₀) True q →
      Hearing t s q never
  /-- heard the first event of its kind, carrying a fault -/
  | heard {e : BrokerEvent} {f : Fault} : s.bus.FirstOfKind kind p₀ e → e.fault? = some f →
      Hearing t s q (.pure f)

/-- The invariant of the race: where the listener `p` and the operation `q` stand. -/
def Racing (t : Nat) (s : World) (p : Act Fault) (q : Act (Except Fault β)) : Prop :=
  OpAt R rx kind p₀ t₀ s₀ op t s q ∧ Hearing rx kind token p₀ t₀ t s q p

end States

section Moves

variable {β : Type} {R : Nat × World → Nat × World → Prop} {rx : Nat} {kind : EventKind}
  {token p₀ t₀ : Nat} {s₀ : World} {op : Act (Except Fault β)} {t t₁ : Nat} {s s' s₁ : World}
  {p p' : Act Fault} {q q' : Act (Except Fault β)}

/-! ### The operation -/

theorem OpAt.scanned (ho : OpAt R rx kind p₀ t₀ s₀ op t s q)
    (hs : s' = s ∨ s' = s.afterScan rx kind) : OpAt R rx kind p₀ t₀ s₀ op t s' q := by
  rcases hs with rfl | rfl
  · exact ho
  · have hm : WithScans R rx kind (t, s) (t, s.afterScan rx kind) := .inr ⟨rfl, rfl⟩
    cases ho with
    | running hq hr => exact .running hq (hr.trans (.env hm .refl))
    | ready hq hop hsize =>
      exact .ready hq hop (by rw [← hsize]; exact congrArg Array.size (Bus.log_scan _ _))

theorem OpAt.turn (ho : OpAt R rx kind p₀ t₀ s₀ op t s q) (h : Turn t s q s' q')
    (hq' : q'.result? = none) : OpAt R rx kind p₀ t₀ s₀ op t s' q' := by
  cases ho with
  | running _ hr => exact .running hq' (hr.trans (.single h.step))
  | ready hq => subst hq; exact absurd h Turn.not_pure

theorem OpAt.env (ho : OpAt R rx kind p₀ t₀ s₀ op t s q) (hp : Parked t s q)
    (hr : R (t, s) (t₁, s₁)) : OpAt R rx kind p₀ t₀ s₀ op t₁ s₁ q := by
  cases ho with
  | running hq hrun => exact .running hq (hrun.trans (.env (.inl hr) .refl))
  | ready hq => subst hq; exact absurd hp Parked.not_pure

/-! ### The listener -/

/-- What the wait answers decides where the listener stands: a fault is heard, and a clean
event or a cancellation leaves it quiet. -/
theorem hearing_of_resolves {r : Except Fault Resolution}
    (hr : Resolves rx kind none false token p₀ t₀ t s r)
    (hu : Keeps (fun w : World => w.bus.Unfaulted rx kind p₀) True q) :
    Hearing rx kind token p₀ t₀ t s q (faultOf r) := by
  cases hr with
  | fired _ hbehind hf => exact .quiet (hbehind.mono fun e he => he ▸ hf) hu
  | failed hfirst _ hf => exact .heard hfirst hf
  | cancelled _ hl _ => exact .quiet (hl.mono fun _ h => h.elim) hu
  | timedOut _ _ _ _ htm => cases htm
  | expired _ _ _ _ htm => cases htm

/-- A turn of the listener writes nothing or its scan's bus, and leads to another of its
states. -/
theorem Hearing.left (hh : Hearing rx kind token p₀ t₀ t s q p) (h : Turn t s p s' p') :
    (s' = s ∨ s' = s.afterScan rx kind) ∧ Hearing rx kind token p₀ t₀ t s' q p' := by
  cases hh with
  | listening hw hres hl hu =>
    rcases Turn.of_bind h with ⟨a, rfl, _⟩ | ⟨w', hw', rfl⟩
    · cases hres
    · obtain ⟨hs, hw''⟩ := hw.turn hw'
      refine ⟨hs, ?_⟩
      -- the wait goes on, or it has answered and the listener acts on the answer
      rcases eq_pure_or_result?_eq_none w' with ⟨r, rfl⟩ | hres'
      · exact hearing_of_resolves hw''.resolves_of_pure hu
      · exact .listening hw'' hres' hl hu
  | quiet => exact absurd h not_turn_never
  | heard => exact absurd h Turn.not_pure

/-- While the listener is blocked, the bus has passed no faulty event of the kind. -/
theorem Hearing.unfaulted (hh : Hearing rx kind token p₀ t₀ t s q p) (hb : Blocked p) :
    s.bus.Unfaulted rx kind p₀ := by
  cases hh with
  | listening hw hres =>
    exact (hw.listening_of_blocked (Blocked.of_bind hb hres)).mono fun _ h => h.elim
  | quiet hu => exact hu
  | heard => cases hb

/-- A turn of the operation, taken while the listener is blocked, moves the bus aside of the
listener's receiver. -/
theorem Hearing.right (hh : Hearing rx kind token p₀ t₀ t s q p) (hb : Blocked p)
    (h : Turn t s q s' q') : Hearing rx kind token p₀ t₀ t s' q' p := by
  cases hh with
  | listening hw hres hl hu =>
    have hbw := Blocked.of_bind hb hres
    have hlist := hw.listening_of_blocked hbw
    obtain ⟨hl', hl''⟩ := hl.step (eq_true hlist) h.step
    obtain ⟨-, hu'⟩ := hu.step (eq_true (hlist.mono fun _ h => h.elim)) h.step
    exact .listening (hw.rebase hbw (of_eq_true hl')) hres hl'' hu'
  | quiet hu hk =>
    obtain ⟨hu', hk'⟩ := hk.step (eq_true hu) h.step
    exact .quiet (of_eq_true hu') hk'
  | heard => cases hb

theorem Hearing.env (hh : Hearing rx kind token p₀ t₀ t s q p) (hp : Parked t s p)
    (ha : Relation.ReflTransGen (Bus.Aside rx) s.bus s₁.bus) :
    Hearing rx kind token p₀ t₀ t₁ s₁ q p := by
  cases hh with
  | listening hw hres hl hu => exact .listening (hw.env (Parked.of_bind hp hres) ha) hres hl hu
  | quiet hu hk => exact .quiet (hu.asides ha) hk
  | heard => cases hp

/-- A finished listener has heard a fault. -/
theorem Hearing.heard_of_pure {f : Fault} (hh : Hearing rx kind token p₀ t₀ t s q (.pure f)) :
    ∃ e, s.bus.FirstOfKind kind p₀ e ∧ e.fault? = some f := by
  generalize hp : (Proc.pure f : Act Fault) = p at hh
  cases hh with
  | listening _ hres =>
    obtain ⟨a, rfl, -⟩ := bind_eq_pure hp.symm
    cases hres
  | quiet => cases hp
  | heard hfirst hf =>
    cases hp
    exact ⟨_, hfirst, hf⟩

end Moves

section Race

variable {β : Type} {R : Nat × World → Nat × World → Prop} {rx : Nat} {kind : EventKind}
  {token p₀ t₀ : Nat} {s₀ : World} {op : Act (Except Fault β)}

/-- A race standing as `Racing` says ends in one of two ways: the listener heard a fault while the
operation had not finished, which is dropped there; or the operation finished with no faulty event
of the kind passed. -/
theorem racing_finishes
    (hR : ∀ x y, R x y → Relation.ReflTransGen (Bus.Aside rx) x.2.bus y.2.bus)
    (h₀ : s₀.bus.Unfaulted rx kind p₀) {t t' : Nat} {s s' : World} {p : Act Fault}
    {q : Act (Except Fault β)} {v : Fault ⊕ Except Fault β}
    (hI : Racing R rx kind token p₀ t₀ s₀ op t s p q)
    (h : PromptFinishes R t s (Proc.race p q) t' s' v) :
    (∃ f q₁ s₁, v = .inl f ∧ q₁.result? = none ∧
        Reaches (WithScans R rx kind) t₀ s₀ op t' s₁ q₁ ∧
        (∃ e, s₁.bus.FirstOfKind kind p₀ e ∧ e.fault? = some f) ∧ s' = q₁.release s₁) ∨
      (∃ c t₁ s₁, v = .inr c ∧ Returns (WithScans R rx kind) t₀ s₀ op t₁ s₁ c ∧
        s₁.bus.Unfaulted rx kind p₀) := by
  obtain ⟨t₁, s₁, p₁, q₁, ⟨ho, hh⟩, hend⟩ :=
    h.first_invariant (I := Racing R rx kind token p₀ t₀ s₀ op)
      (fun hI hs => ⟨hI.1.scanned (hI.2.left hs).1, (hI.2.left hs).2⟩)
      (fun hI hb hs hq => ⟨hI.1.turn hs hq, hI.2.right hb hs⟩)
      (fun hI hp hq hr => ⟨hI.1.env hq hr, hI.2.env hp (hR _ _ hr)⟩) hI
  rcases hend with ⟨f, rfl, hk⟩ | ⟨s₂, c, hb, hs, hk⟩ | ⟨c, rfl, -, hk⟩
  · -- the listener heard a fault first
    obtain ⟨rfl, rfl, rfl⟩ := promptFinishes_pure_iff.1 hk
    obtain ⟨e, hfirst, hf⟩ := hh.heard_of_pure
    cases ho with
    | running hq hr => exact .inl ⟨f, q₁, s₁, rfl, hq, hr, ⟨e, hfirst, hf⟩, rfl⟩
    | ready _ _ hsize =>
      -- nothing was emitted since the race began, so nothing was heard
      obtain ⟨i, hi, hp₀, -⟩ := hfirst
      omega
  · -- the operation finished by a turn taken while the listener was blocked
    obtain ⟨rfl, -, -⟩ := promptFinishes_pure_iff.1 hk
    cases ho with
    | running _ hr =>
      exact .inr ⟨c, t₁, s₂, rfl, hr.trans (.single hs.step), (hh.right hb hs).unfaulted hb⟩
    | ready hq => subst hq; exact absurd hs Turn.not_pure
  · -- the operation had finished from the start
    obtain ⟨rfl, -, -⟩ := promptFinishes_pure_iff.1 hk
    cases ho with
    | running hq => cases hq
    | ready hq hop =>
      cases hq
      subst hop
      exact .inr ⟨c, t₀, s₀, rfl, .refl, h₀⟩

/-- A race subscribes, takes its token, runs its two parts promptly, drops the receiver and
cancels the token. -/
theorem promptFinishes_raceWithEvent {scope t t' : Nat} {s s' : World} {r : Except Fault β}
    (h : PromptFinishes R t s (Act.raceWithEvent kind scope op) t' s' r) :
    ∃ s₁ v, PromptFinishes R t (s.raceBegun scope)
        (Proc.race (Act.faultListener s.bus.nextReceiver kind s.tokens.nodes.size) op) t' s₁ v ∧
      r = v.elim .error id ∧ s' = s₁.raceEnded s.bus.nextReceiver s.tokens.nodes.size := by
  rw [Act.raceWithEvent_eq, Act.subscribe, promptFinishes_modifyGet_bind_iff, Act.childToken,
    promptFinishes_modifyGet_bind_iff] at h
  obtain ⟨t₁, s₁, v, hrace, hk⟩ := promptFinishes_holding_iff.1 h
  simp only [Proc.pure_bind] at hk
  rw [Act.cancel, promptFinishes_modify_bind_iff, pure_eq, promptFinishes_pure_iff] at hk
  obtain ⟨rfl, rfl, rfl⟩ := hk
  exact ⟨s₁, v, hrace, by cases v <;> rfl, rfl⟩

/-- Any run of a race subscribes, takes its token, runs its two parts, drops the receiver and
cancels the token. -/
theorem finishes_raceWithEvent_iff {scope t t' : Nat} {s s' : World} {r : Except Fault β} :
    Finishes R t s (Act.raceWithEvent kind scope op) t' s' r ↔
      ∃ s₁ v, Finishes R t (s.raceBegun scope)
          (Proc.race (Act.faultListener s.bus.nextReceiver kind s.tokens.nodes.size) op) t' s₁ v ∧
        r = v.elim .error id ∧ s' = s₁.raceEnded s.bus.nextReceiver s.tokens.nodes.size := by
  rw [Act.raceWithEvent_eq, Act.subscribe, finishes_modifyGet_bind_iff, Act.childToken,
    finishes_modifyGet_bind_iff]
  constructor
  · intro h
    obtain ⟨t₁, s₁, v, hrace, hk⟩ := finishes_holding_iff.1 h
    simp only [Proc.pure_bind] at hk
    rw [Act.cancel, finishes_modify_bind_iff, pure_eq, finishes_pure_iff] at hk
    obtain ⟨rfl, rfl, rfl⟩ := hk
    exact ⟨s₁, v, hrace, by cases v <;> rfl, rfl⟩
  · rintro ⟨s₁, v, hrace, rfl, rfl⟩
    refine finishes_holding_iff.2 ⟨t', s₁, v, hrace, ?_⟩
    simp only [Proc.pure_bind]
    rw [Act.cancel, finishes_modify_bind_iff, pure_eq, finishes_pure_iff]
    exact ⟨by cases v <;> rfl, rfl, rfl⟩

/-- **What a raced operation answers.** Among an environment that spares its receiver, it answers a
fault only when the first event of `kind` since it subscribed carried it before the operation
finished, and otherwise what a run of the operation answers; it then drops its receiver and cancels
its token. -/
theorem raceWithEvent_answers {scope t t' : Nat} {s s' : World} {r : Except Fault β}
    (hs : s.bus.fresh = true)
    (hR : ∀ x y, R x y → Relation.ReflTransGen (Bus.Aside s.bus.nextReceiver) x.2.bus y.2.bus)
    (hop : SparesReceiver s.bus.nextReceiver op)
    (h : PromptFinishes R t s (Act.raceWithEvent kind scope op) t' s' r) :
    (∃ f, r = .error f ∧ ∃ q s₁, q.result? = none ∧
        Reaches (WithScans R s.bus.nextReceiver kind) t (s.raceBegun scope) op t' s₁ q ∧
        (∃ e, s₁.bus.FirstOfKind kind s.bus.log.size e ∧ e.fault? = some f) ∧
        s' = (q.release s₁).raceEnded s.bus.nextReceiver s.tokens.nodes.size) ∨
      (∃ t₁ s₁, Returns (WithScans R s.bus.nextReceiver kind) t (s.raceBegun scope) op t₁ s₁ r ∧
        s₁.bus.Unfaulted s.bus.nextReceiver kind s.bus.log.size ∧
        ∃ w : World, s' = w.raceEnded s.bus.nextReceiver s.tokens.nodes.size) := by
  obtain ⟨s₁, v, hrace, rfl, rfl⟩ := promptFinishes_raceWithEvent h
  -- the receiver starts where the log ends, so it has passed nothing
  have hc : (s.raceBegun scope).bus.CaughtUp s.bus.nextReceiver := Bus.caughtUp_subscribe hs
  have hl : (s.raceBegun scope).bus.Listening s.bus.nextReceiver kind s.bus.log.size :=
    Bus.behind_of_caughtUp hc
  have hI : Racing R s.bus.nextReceiver kind s.tokens.nodes.size s.bus.log.size t
      (s.raceBegun scope) op t (s.raceBegun scope)
      (Act.faultListener s.bus.nextReceiver kind s.tokens.nodes.size) op := by
    refine ⟨?_, ?_⟩
    · rcases eq_pure_or_result?_eq_none op with ⟨c, rfl⟩ | hop'
      · exact .ready rfl rfl rfl
      · exact .running hop' .refl
    · rw [faultListener_eq]
      exact .listening (.start hl) rfl
        (hop (fun b => b.Listening s.bus.nextReceiver kind s.bus.log.size)
          fun _ _ h ha => h.aside ha)
        (hop (fun b => b.Unfaulted s.bus.nextReceiver kind s.bus.log.size)
          fun _ _ h ha => h.aside ha)
  rcases racing_finishes hR (Bus.behind_of_caughtUp hc) hI hrace with
    ⟨f, q, s₂, rfl, hq, hr, hheard, rfl⟩ | ⟨c, t₁, s₂, rfl, hr, hu⟩
  · exact .inl ⟨f, rfl, q, s₂, hq, hr, hheard, rfl⟩
  · exact .inr ⟨t₁, s₂, hr, hu, s₁, rfl⟩

/-! ## The one-shot wait and the race -/

/-- **A one-shot wait resolves as its events allow, and so does a raced operation.** A wait answers
only what `Resolves` allows, and does answer once an event is queued, its token is cancelled, the
bus has closed or it has a deadline; a raced operation answers as `raceWithEvent_answers` says. -/
theorem awaitOnce_resolves_and_race_answers :
    (∀ {R : Nat × World → Nat × World → Prop} {rx : Nat} {kind : EventKind}
        {timeout : Option Span} {hard : Bool} {token p₀ t t' : Nat} {s s' : World}
        {r : Except Fault Resolution},
        (∀ x y, R x y → Relation.ReflTransGen (Bus.Aside rx) x.2.bus y.2.bus) →
        s.bus.Listening rx kind p₀ →
        Finishes R t s (Act.awaitOnce rx kind timeout hard token) t' s' r →
        Resolves rx kind timeout hard token p₀ t t' s' r) ∧
    (∀ {R : Nat × World → Nat × World → Prop} {rx : Nat} {kind : EventKind}
        {timeout : Option Span} {hard : Bool} {token p₀ t : Nat} {s : World},
        (∀ t₁ t₂ w, t₁ ≤ t₂ → R (t₁, w) (t₂, w)) →
        s.bus.Listening rx kind p₀ →
        (s.bus.Queued rx kind ∨ s.isCancelled token = true ∨ s.bus.sending = false ∨
          timeout.isSome = true) →
        ∃ t' s' r, Finishes R t s (Act.awaitOnce rx kind timeout hard token) t' s' r) ∧
    (∀ {β : Type} {R : Nat × World → Nat × World → Prop} {kind : EventKind}
        {op : Act (Except Fault β)} {scope t t' : Nat} {s s' : World} {r : Except Fault β},
        s.bus.fresh = true →
        (∀ x y, R x y → Relation.ReflTransGen (Bus.Aside s.bus.nextReceiver) x.2.bus y.2.bus) →
        SparesReceiver s.bus.nextReceiver op →
        PromptFinishes R t s (Act.raceWithEvent kind scope op) t' s' r →
        (∃ f, r = .error f ∧ ∃ q s₁, q.result? = none ∧
            Reaches (WithScans R s.bus.nextReceiver kind) t (s.raceBegun scope) op t' s₁ q ∧
            (∃ e, s₁.bus.FirstOfKind kind s.bus.log.size e ∧ e.fault? = some f) ∧
            s' = (q.release s₁).raceEnded s.bus.nextReceiver s.tokens.nodes.size) ∨
          (∃ t₁ s₁, Returns (WithScans R s.bus.nextReceiver kind) t (s.raceBegun scope) op t₁ s₁ r ∧
            s₁.bus.Unfaulted s.bus.nextReceiver kind s.bus.log.size ∧
            ∃ w : World, s' = w.raceEnded s.bus.nextReceiver s.tokens.nodes.size)) :=
  ⟨fun hR hl h => resolves_of_finishes_awaitOnce hR hl h,
    fun hR hl hgo => finishes_awaitOnce hR hl hgo,
    fun hs hR hop h => raceWithEvent_answers hs hR hop h⟩

/-- A wait with a faulty client error queued answers, as `Resolves` allows, while the clock
alone moves; and a race whose operation answers at once answers what it answered, having
passed no faulty event. -/
theorem awaitOnce_resolves_and_race_answers_queued :
    (∃ t' s' r, Finishes (fun x y => x.1 ≤ y.1 ∧ y.2 = x.2) 0
        { World.fresh "orders" {} with
          bus := { log := #[.clientError (Fault.broker (-195) "transport failure")],
                   receivers := [(0, 0)], nextReceiver := 1 } }
        (Act.awaitOnce 0 .clientError none false 0) t' s' r ∧
      Resolves 0 .clientError none false 0 0 0 t' s' r) ∧
    ∃ s', PromptFinishes (fun _ _ => False) 0 (World.fresh "orders" {})
        (Act.raceWithEvent .clientError 0 (Proc.pure (.ok 1) : Act (Except Fault Nat))) 0 s' (.ok 1) ∧
      ∃ t₁ s₁, Returns (WithScans (fun _ _ => False) 0 .clientError) 0
          ((World.fresh "orders" {}).raceBegun 0) (Proc.pure (.ok 1) : Act (Except Fault Nat)) t₁ s₁
          (.ok 1) ∧
        s₁.bus.Unfaulted 0 .clientError 0 ∧ ∃ w : World, s' = w.raceEnded 0 1 := by
  refine ⟨?_, ?_⟩
  · -- the receiver stands before the queued event, so the wait answers at once
    let B : Bus := { log := #[.clientError (Fault.broker (-195) "transport failure")],
                     receivers := [(0, 0)], nextReceiver := 1 }
    have hl : B.Listening 0 .clientError 0 :=
      ⟨0, rfl, le_rfl, Nat.zero_le _, fun _ _ h₀ hj => absurd hj (Nat.not_lt.2 h₀)⟩
    have hq : B.Queued 0 .clientError := ⟨0, rfl, 0, by decide, le_rfl, by decide, rfl⟩
    have hlive : ∃ t' s' r, Finishes (fun x y => x.1 ≤ y.1 ∧ y.2 = x.2) 0
        { World.fresh "orders" {} with bus := B } (Act.awaitOnce 0 .clientError none false 0)
        t' s' r :=
      awaitOnce_resolves_and_race_answers.2.1 (fun _ _ _ h => ⟨h, rfl⟩) hl (.inl hq)
    obtain ⟨t', s', r, hrun⟩ := hlive
    refine ⟨t', s', r, hrun, awaitOnce_resolves_and_race_answers.1 (fun x y h => ?_) hl hrun⟩
    rw [h.2]
  · -- the operation has finished before the listener moves, and the race is decided for it
    have hrun : PromptFinishes (fun _ _ => False) 0 (World.fresh "orders" {})
        (Act.raceWithEvent .clientError 0 (Proc.pure (.ok 1) : Act (Except Fault Nat))) 0
        (((World.fresh "orders" {}).raceBegun 0).raceEnded 0 1) (.ok 1) := by
      rw [Act.raceWithEvent_eq, Act.subscribe, promptFinishes_modifyGet_bind_iff, Act.childToken,
        promptFinishes_modifyGet_bind_iff]
      refine promptFinishes_holding_iff.2 ⟨0, _, .inr (.ok 1), .step (.firstDoneRight rfl) .refl, ?_⟩
      simp only [Proc.pure_bind]
      rw [Act.cancel, promptFinishes_modify_bind_iff, pure_eq]
      exact promptFinishes_pure_iff.2 ⟨rfl, rfl, rfl⟩
    rcases awaitOnce_resolves_and_race_answers.2.2 rfl (fun _ _ h => h.elim)
        (fun _ _ => Keeps.pure) hrun with ⟨f, hf, -⟩ | ⟨t₁, s₁, hr, hu, w, hw⟩
    · cases hf
    · exact ⟨_, hrun, t₁, s₁, hr, hu, w, hw⟩

end Race

end BrokerSession
