import BrokerSession.Proofs.Broker.Scan
import BrokerSession.Proofs.Proc.Prompt

/-!
# What a one-shot wait answers

`awaitOnce` reads its receiver in rounds: a round scans everything new up to the first event of
its kind and then resolves, or parks until there is news, its token is cancelled or its
deadline comes. Run among an environment that leaves its receiver where it is (`Bus.Aside`),
every answer it gives is one that `Resolves` allows (`resolves_of_finishes_awaitOnce`):

* the first event of its kind emitted since it began that the channel still keeps, failing
  with the event's fault if it carries one; events of other kinds never resolve it;
* `cancelled`, with everything read and nothing of its kind kept, when its token is cancelled
  or the bus has closed;
* once its deadline has come, with everything read, nothing of its kind kept and its token not
  cancelled, a timeout fault when the wait is hard and `timedOut` when it is soft.

So an event of its kind queued by the time the wait looks at its token or its deadline always
wins, and a cancellation wins over the deadline.

The proof follows the wait through its states (`InRound` within a round, `Waiting` around it),
with one lemma for its own turns and one for the moves of the environment, and an induction on
the run. Between a scan and the decision it leads to, the wait only reads and writes: those
states are `passing`, each turn from them leading to another state of the round.
-/

namespace BrokerSession

open Proc

/-- The deadline of a wait with `timeout` that began at `t₀`. -/
def waitDeadline (timeout : Option Span) (t₀ : Nat) : Option Nat :=
  timeout.map fun d => t₀ + d.millisCeil

/-- The world once receiver `rx` has scanned for `kind`. -/
def World.afterScan (w : World) (rx : Nat) (kind : EventKind) : World :=
  { w with bus := (w.bus.scan rx kind).2 }

section States

variable (rx : Nat) (kind : EventKind) (timeout : Option Span) (hard : Bool) (token p₀ t₀ : Nat)

/-- The answers a wait on receiver `rx` for `kind`, begun at `t₀` with its receiver at `p₀`, may
give at time `t` in world `s`. -/
inductive Resolves (t : Nat) (s : World) : Except Fault Resolution → Prop
  /-- the first event of the kind still kept, without a fault -/
  | fired {e : BrokerEvent} : s.bus.FirstOfKind kind p₀ e → s.bus.Behind rx kind p₀ (· = e) →
      e.fault? = none → Resolves t s (.ok (.fired e))
  /-- the first event of the kind still kept, with its fault -/
  | failed {e : BrokerEvent} {f : Fault} : s.bus.FirstOfKind kind p₀ e →
      s.bus.Behind rx kind p₀ (· = e) → e.fault? = some f → Resolves t s (.error f)
  /-- nothing of the kind to hear, and the bus closed or the token cancelled -/
  | cancelled : s.bus.CaughtUp rx → s.bus.Listening rx kind p₀ →
      s.bus.sending = false ∨ s.isCancelled token = true → Resolves t s (.ok .cancelled)
  /-- nothing of the kind to hear by the deadline of a soft wait -/
  | timedOut {d : Span} : s.bus.CaughtUp rx → s.bus.Listening rx kind p₀ →
      s.bus.sending = true → s.isCancelled token = false → timeout = some d →
      t₀ + d.millisCeil ≤ t → hard = false → Resolves t s (.ok .timedOut)
  /-- nothing of the kind to hear by the deadline of a hard wait -/
  | expired {d : Span} : s.bus.CaughtUp rx → s.bus.Listening rx kind p₀ →
      s.bus.sending = true → s.isCancelled token = false → timeout = some d →
      t₀ + d.millisCeil ≤ t → hard = true → Resolves t s (.error (Fault.timeout d))

/-- Where a round of the wait stands at time `t` in world `s`. -/
inductive InRound : Nat → World → Act (Unit ⊕ Except Fault Resolution) → Prop
  /-- about to scan, having passed nothing of its kind -/
  | start {t : Nat} {s : World} : s.bus.Listening rx kind p₀ →
      InRound t s (Act.listenRound rx kind timeout hard token (waitDeadline timeout t₀))
  /-- between its scan and its decision: neither blocked nor finished, each of its turns
  writing nothing or the scan's bus and leading to another state of the round -/
  | passing {t : Nat} {s : World} {q : Act (Unit ⊕ Except Fault Resolution)} : ¬ Blocked q →
      q.result? = none → (∀ s' q', Turn t s q s' q' → s' = s ∨ s' = s.afterScan rx kind) →
      (∀ s' q', Turn t s q s' q' → InRound t s' q') → InRound t s q
  /-- parked until news, cancellation or the deadline -/
  | parked {t : Nat} {s : World} : s.bus.Listening rx kind p₀ →
      InRound t s (.wait (Act.listenWake rx token (waitDeadline timeout t₀)) (.pure (.inl ())))
  /-- on to the next round -/
  | next {t : Nat} {s : World} : s.bus.Listening rx kind p₀ → InRound t s (.pure (.inl ()))
  /-- decided -/
  | done {t : Nat} {s : World} {r : Except Fault Resolution} :
      Resolves rx kind timeout hard token p₀ t₀ t s r → InRound t s (.pure (.inr r))

/-- Where the wait stands: about to read the clock at `t₀`, within a round, or answered. -/
inductive Waiting : Nat → World → Act (Except Fault Resolution) → Prop
  | start {s : World} : s.bus.Listening rx kind p₀ →
      Waiting t₀ s (Act.awaitOnce rx kind timeout hard token)
  | round {t : Nat} {s : World} {cur : Act (Unit ⊕ Except Fault Resolution)} :
      InRound rx kind timeout hard token p₀ t₀ t s cur →
      Waiting t s (.loop cur (fun _ => Act.listenRound rx kind timeout hard token
        (waitDeadline timeout t₀)) .pure)
  | done {t : Nat} {s : World} {r : Except Fault Resolution} :
      Resolves rx kind timeout hard token p₀ t₀ t s r → Waiting t s (.pure r)

end States

section Rounds

variable {rx : Nat} {kind : EventKind} {timeout : Option Span} {hard : Bool} {token p₀ t₀ : Nat}
  {t t₁ : Nat} {s s' s₁ : World}

theorem turn_listenRound_iff {D : Option Nat} {q : Act (Unit ⊕ Except Fault Resolution)} :
    Turn t s (Act.listenRound rx kind timeout hard token D) s' q ↔
      s' = s ∧
        q = .put (s.afterScan rx kind) (Act.onFound rx token timeout hard D (s.bus.scan rx kind).1) :=
  turn_look_iff

theorem inRound_look {k : Nat → World → Act (Unit ⊕ Except Fault Resolution)}
    (hk : InRound rx kind timeout hard token p₀ t₀ t s (k t s)) :
    InRound rx kind timeout hard token p₀ t₀ t s (.look k) := by
  refine .passing (by intro h; cases h) rfl (fun _ _ h => .inl (turn_look_iff.1 h).1)
    fun _ _ h => ?_
  obtain ⟨rfl, rfl⟩ := turn_look_iff.1 h
  exact hk

/-- Once a scan has read everything and found nothing, the wait looks at its token and at its
deadline: it is cancelled, it has reached its deadline, or it parks. -/
theorem inRound_afterNothing (hc : s.bus.CaughtUp rx) (hl : s.bus.Listening rx kind p₀)
    (hs : s.bus.sending = true) :
    InRound rx kind timeout hard token p₀ t₀ t s
      (Act.afterNothing rx token timeout hard (waitDeadline timeout t₀)) := by
  -- it reads the world and the clock, and decides
  refine inRound_look (inRound_look ?_)
  dsimp only [Proc.pure_bind]
  by_cases hcan : s.isCancelled token = true
  · rw [if_pos hcan]
    exact .done (.cancelled hc hl (.inr hcan))
  · rw [if_neg hcan]
    have hcan : s.isCancelled token = false := by simpa using hcan
    cases timeout with
    | none =>
      -- no deadline: park
      simp only [waitDeadline, Option.map_none, Bool.false_eq_true, if_false]
      exact .parked hl
    | some d =>
      by_cases hexp : t₀ + d.millisCeil ≤ t
      · simp only [waitDeadline, Option.map_some, hexp, decide_true, if_true, Option.getD_some,
          Proc.pure_eq]
        cases hard with
        | false => exact .done (.timedOut hc hl hs hcan rfl hexp rfl)
        | true => exact .done (.expired hc hl hs hcan rfl hexp rfl)
      · simp only [waitDeadline, Option.map_some, hexp, decide_false, Bool.false_eq_true, if_false]
        exact .parked hl

theorem inRound_onFound {f : Found} (hh : Bus.Heard rx kind p₀ s.bus f) :
    InRound rx kind timeout hard token p₀ t₀ t s
      (Act.onFound rx token timeout hard (waitDeadline timeout t₀) f) := by
  cases hh with
  | @event e hfirst hbehind =>
    cases hf : e.fault? with
    | none =>
      simp only [Act.onFound, hf, Proc.pure_eq]
      exact .done (.fired hfirst hbehind hf)
    | some f =>
      simp only [Act.onFound, hf, Proc.pure_eq]
      exact .done (.failed hfirst hbehind hf)
  | closed hc hl hs => exact .done (.cancelled hc hl (.inl hs))
  | nothing hc hl hs => exact inRound_afterNothing hc hl hs

theorem inRound_scanned (hl : s.bus.Listening rx kind p₀) :
    InRound rx kind timeout hard token p₀ t₀ t s
      (.put (s.afterScan rx kind)
        (Act.onFound rx token timeout hard (waitDeadline timeout t₀) (s.bus.scan rx kind).1)) := by
  refine .passing (by intro h; cases h) rfl (fun _ _ h => .inr (turn_put_iff.1 h).1) fun _ _ h => ?_
  obtain ⟨rfl, rfl⟩ := turn_put_iff.1 h
  exact inRound_onFound (Bus.heard_scan hl)

theorem InRound.turn {q q' : Act (Unit ⊕ Except Fault Resolution)}
    (hq : InRound rx kind timeout hard token p₀ t₀ t s q) (h : Turn t s q s' q') :
    (s' = s ∨ s' = s.afterScan rx kind) ∧ InRound rx kind timeout hard token p₀ t₀ t s' q' := by
  cases hq with
  | start hl =>
    obtain ⟨rfl, rfl⟩ := turn_listenRound_iff.1 h
    exact ⟨.inl rfl, inRound_scanned hl⟩
  | passing _ _ hs hk => exact ⟨hs s' q' h, hk s' q' h⟩
  | parked hl =>
    obtain ⟨-, rfl, rfl⟩ := turn_wait_iff.1 h
    exact ⟨.inl rfl, .next hl⟩
  | next => exact absurd h Turn.not_pure
  | done => exact absurd h Turn.not_pure

theorem InRound.listening_of_blocked {q : Act (Unit ⊕ Except Fault Resolution)}
    (hq : InRound rx kind timeout hard token p₀ t₀ t s q) (hb : Blocked q) :
    s.bus.Listening rx kind p₀ := by
  cases hq with
  | start => cases hb
  | passing hnb => exact absurd hb hnb
  | parked hl => exact hl
  | next => cases hb
  | done => cases hb

theorem InRound.rebase {q : Act (Unit ⊕ Except Fault Resolution)}
    (hq : InRound rx kind timeout hard token p₀ t₀ t s q) (hb : Blocked q)
    (hl : s₁.bus.Listening rx kind p₀) : InRound rx kind timeout hard token p₀ t₀ t₁ s₁ q := by
  cases hq with
  | start => cases hb
  | passing hnb => exact absurd hb hnb
  | parked => exact .parked hl
  | next => cases hb
  | done => cases hb

end Rounds

section Wait

variable {rx : Nat} {kind : EventKind} {timeout : Option Span} {hard : Bool} {token p₀ t₀ : Nat}
  {t t' t₁ : Nat} {s s' s₁ : World}

theorem Waiting.turn {w w' : Act (Except Fault Resolution)}
    (hw : Waiting rx kind timeout hard token p₀ t₀ t s w) (h : Turn t s w s' w') :
    (s' = s ∨ s' = s.afterScan rx kind) ∧ Waiting rx kind timeout hard token p₀ t₀ t s' w' := by
  cases hw with
  | start hl =>
    -- the clock read fixes the deadline, and the first round begins
    obtain ⟨rfl, rfl⟩ := turn_look_iff.1 h
    exact ⟨.inl rfl, .round (.start hl)⟩
  | round hq =>
    cases h with
    | loopIn hc =>
      obtain ⟨hs, hq'⟩ := hq.turn hc
      exact ⟨hs, .round hq'⟩
    | loopNext =>
      cases hq with
      | next hl => exact ⟨.inl rfl, .round (.start hl)⟩
      | passing _ hr => cases hr
    | loopDone =>
      cases hq with
      | done hr => exact ⟨.inl rfl, .done hr⟩
      | passing _ hr => cases hr
  | done => exact absurd h Turn.not_pure

theorem Waiting.listening_of_blocked {w : Act (Except Fault Resolution)}
    (hw : Waiting rx kind timeout hard token p₀ t₀ t s w) (hb : Blocked w) :
    s.bus.Listening rx kind p₀ := by
  cases hw with
  | start => cases hb
  | round hq => cases hb with | loop hc => exact hq.listening_of_blocked hc
  | done => cases hb

theorem Waiting.rebase {w : Act (Except Fault Resolution)}
    (hw : Waiting rx kind timeout hard token p₀ t₀ t s w) (hb : Blocked w)
    (hl : s₁.bus.Listening rx kind p₀) : Waiting rx kind timeout hard token p₀ t₀ t₁ s₁ w := by
  cases hw with
  | start => cases hb
  | round hq => cases hb with | loop hc => exact .round (hq.rebase hc hl)
  | done => cases hb

theorem Waiting.env {w : Act (Except Fault Resolution)}
    (hw : Waiting rx kind timeout hard token p₀ t₀ t s w) (hp : Parked t s w)
    (ha : Relation.ReflTransGen (Bus.Aside rx) s.bus s₁.bus) :
    Waiting rx kind timeout hard token p₀ t₀ t₁ s₁ w :=
  hw.rebase hp.blocked ((hw.listening_of_blocked hp.blocked).asides ha)

theorem Waiting.resolves_of_pure {r : Except Fault Resolution}
    (hw : Waiting rx kind timeout hard token p₀ t₀ t s (.pure r)) :
    Resolves rx kind timeout hard token p₀ t₀ t s r := by
  cases hw with
  | done hr => exact hr

/-- Among an environment that leaves its receiver where it is, a wait answers only what
`Resolves` allows, at the time and in the world where it answers. The induction is on the run;
each turn and each move of the environment leads from a state of the wait to another. -/
theorem Waiting.resolves {R : Nat × World → Nat × World → Prop}
    (hR : ∀ x y, R x y → Relation.ReflTransGen (Bus.Aside rx) x.2.bus y.2.bus)
    {w : Act (Except Fault Resolution)} {r : Except Fault Resolution}
    (hw : Waiting rx kind timeout hard token p₀ t₀ t s w) (h : Finishes R t s w t' s' r) :
    Resolves rx kind timeout hard token p₀ t₀ t' s' r := by
  unfold Finishes at h
  generalize hz : Proc.pure r = z at h
  induction h with
  | refl =>
    subst hz
    exact hw.resolves_of_pure
  | step hs _ ih => exact ih (hw.turn hs).2 hz
  | env hp hr _ ih => exact ih (hw.env hp (hR _ _ hr)) hz

/-- What a wait answers, among an environment that leaves its receiver where it is: what
`Resolves` allows, begun at its start time with its receiver where it stood. -/
theorem resolves_of_finishes_awaitOnce {R : Nat × World → Nat × World → Prop}
    (hR : ∀ x y, R x y → Relation.ReflTransGen (Bus.Aside rx) x.2.bus y.2.bus)
    (hl : s.bus.Listening rx kind p₀) {r : Except Fault Resolution}
    (h : Finishes R t s (Act.awaitOnce rx kind timeout hard token) t' s' r) :
    Resolves rx kind timeout hard token p₀ t t' s' r :=
  (Waiting.start hl).resolves hR h

/-! ## The wait resolves -/

theorem finishes_listenRound_of_found {R : Nat × World → Nat × World → Prop} {D : Option Nat}
    {v : Unit ⊕ Except Fault Resolution}
    (h : Finishes R t (s.afterScan rx kind)
      (Act.onFound rx token timeout hard D (s.bus.scan rx kind).1) t' s' v) :
    Finishes R t s (Act.listenRound rx kind timeout hard token D) t' s' v :=
  finishes_modifyGet_bind_iff.2 h

/-- The world a scan of a receiver that has read everything leaves is the world it read. -/
theorem afterScan_of_caughtUp (hc : s.bus.CaughtUp rx) (hs : s.bus.sending = true) :
    s.afterScan rx kind = s ∧ (s.bus.scan rx kind).1 = .nothing := by
  rw [World.afterScan, Bus.scan_of_caughtUp hc, hs]
  exact ⟨rfl, rfl⟩

theorem finishes_afterNothing_cancelled {R : Nat × World → Nat × World → Prop} {D : Option Nat}
    (hc : s.isCancelled token = true) :
    Finishes R t s (Act.afterNothing rx token timeout hard D) t s (.inr (.ok .cancelled)) := by
  unfold Act.afterNothing
  rw [finishes_get_bind_iff, finishes_now_bind_iff, if_pos hc]
  exact finishes_pure_iff.2 ⟨rfl, rfl, rfl⟩

/-- Past its deadline, a wait that found nothing and is not cancelled answers at once: a
timeout fault if it is hard, `timedOut` if it is soft. -/
theorem finishes_afterNothing_expired {R : Nat × World → Nat × World → Prop} {d : Span}
    (hc : s.isCancelled token = false) (htm : timeout = some d) (hexp : t₀ + d.millisCeil ≤ t) :
    Finishes R t s (Act.afterNothing rx token timeout hard (waitDeadline timeout t₀)) t s
      (.inr (if hard then .error (Fault.timeout d) else .ok .timedOut)) := by
  subst htm
  unfold Act.afterNothing
  rw [finishes_get_bind_iff, finishes_now_bind_iff, if_neg (by simp [hc])]
  simp only [waitDeadline, Option.map_some, hexp, decide_true, if_true, Option.getD_some,
    Proc.pure_eq]
  exact finishes_pure_iff.2 ⟨rfl, rfl, rfl⟩

theorem finishes_afterNothing_parks {R : Nat × World → Nat × World → Prop} {d : Span}
    {v : Unit ⊕ Except Fault Resolution} (hc : s.isCancelled token = false) (htm : timeout = some d)
    (hexp : t < t₀ + d.millisCeil)
    (h : Finishes R t s
      (.wait (Act.listenWake rx token (waitDeadline timeout t₀)) (.pure (.inl ()))) t' s' v) :
    Finishes R t s (Act.afterNothing rx token timeout hard (waitDeadline timeout t₀)) t' s' v := by
  subst htm
  unfold Act.afterNothing
  rw [finishes_get_bind_iff, finishes_now_bind_iff, if_neg (by simp [hc])]
  simp only [waitDeadline, Option.map_some, Nat.not_le.2 hexp, decide_false, Bool.false_eq_true,
    if_false]
  exact h

/-- A wait resolves: at once when an event of its kind is queued for it, its token is
cancelled or the bus has closed, and otherwise at its deadline, when it has one and the clock
may move on while nothing else happens. -/
theorem finishes_awaitOnce {R : Nat × World → Nat × World → Prop}
    (hR : ∀ t₁ t₂ w, t₁ ≤ t₂ → R (t₁, w) (t₂, w)) (hl : s.bus.Listening rx kind p₀)
    (hgo : s.bus.Queued rx kind ∨ s.isCancelled token = true ∨ s.bus.sending = false ∨
      timeout.isSome = true) :
    ∃ t' s' r, Finishes R t s (Act.awaitOnce rx kind timeout hard token) t' s' r := by
  -- the first round decides, or parks until the deadline and the second round decides
  suffices h : ∃ t' s' r, Finishes R t s (.loop (Act.listenRound rx kind timeout hard token
      (waitDeadline timeout t)) (fun _ => Act.listenRound rx kind timeout hard token
      (waitDeadline timeout t)) .pure) t' s' r by
    obtain ⟨t', s', r, h⟩ := h
    exact ⟨t', s', r, finishes_look_iff.2 h⟩
  have hh : Bus.Heard rx kind p₀ (s.bus.scan rx kind).2 (s.bus.scan rx kind).1 :=
    Bus.heard_scan hl
  generalize hf : (s.bus.scan rx kind).1 = f at hh
  have hdone : ∀ r, Finishes R t (s.afterScan rx kind)
      (Act.onFound rx token timeout hard (waitDeadline timeout t) f) t (s.afterScan rx kind)
        (.inr r) →
      ∃ t' s' r, Finishes R t s (.loop (Act.listenRound rx kind timeout hard token
        (waitDeadline timeout t)) (fun _ => Act.listenRound rx kind timeout hard token
        (waitDeadline timeout t)) .pure) t' s' r := fun r hr =>
    ⟨_, _, r, finishes_loop_iff.2 ⟨_, _, .inr r, finishes_listenRound_of_found (hf ▸ hr),
      finishes_pure_iff.2 ⟨rfl, rfl, rfl⟩⟩⟩
  cases hh with
  | @event e =>
    cases he : e.fault? with
    | none => exact hdone (.ok (.fired e)) (by
      simp only [Act.onFound, he, Proc.pure_eq]
      exact finishes_pure_iff.2 ⟨rfl, rfl, rfl⟩)
    | some f => exact hdone (.error f) (by
      simp only [Act.onFound, he, Proc.pure_eq]
      exact finishes_pure_iff.2 ⟨rfl, rfl, rfl⟩)
  | closed => exact hdone _ (finishes_pure_iff.2 ⟨rfl, rfl, rfl⟩)
  | nothing hc _ hs =>
    have hs₁ : (s.afterScan rx kind).bus.sending = true := hs
    have hcan₁ : (s.afterScan rx kind).isCancelled token = s.isCancelled token := rfl
    cases hcan : s.isCancelled token with
    | true => exact hdone _ (finishes_afterNothing_cancelled (hcan₁.trans hcan))
    | false =>
      -- nothing is queued and the bus is open, so the wait has a deadline
      obtain ⟨d, htm⟩ : ∃ d, timeout = some d := by
        rcases hgo with hq | hc' | hs' | ht
        · obtain ⟨e, he⟩ := Bus.scan_event_of_queued hl hq
          rw [hf] at he
          cases he
        · rw [hcan] at hc'
          cases hc'
        · rw [← Bus.sending_scan rx kind, hs] at hs'
          cases hs'
        · exact Option.isSome_iff_exists.1 ht
      by_cases hexp : t + d.millisCeil ≤ t
      · exact hdone _ (finishes_afterNothing_expired (hcan₁.trans hcan) htm hexp)
      · -- it parks until its deadline, then reads nothing again and answers
        have hc₁ : (s.afterScan rx kind).bus.CaughtUp rx := hc
        obtain ⟨hsame, hnothing⟩ : (s.afterScan rx kind).afterScan rx kind = s.afterScan rx kind ∧
            ((s.afterScan rx kind).bus.scan rx kind).1 = .nothing := afterScan_of_caughtUp hc₁ hs₁
        have hwait : Finishes R t (s.afterScan rx kind)
            (.wait (Act.listenWake rx token (waitDeadline timeout t))
              (.pure (Sum.inl () : Unit ⊕ Except Fault Resolution)))
            (t + d.millisCeil) (s.afterScan rx kind) (.inl ()) := by
          refine .env (.wait ?_) (hR _ _ _ (Nat.le_add_right _ _)) (.step (.wait ?_) .refl)
          · simp [Wake.due, Act.listenWake, waitDeadline, htm, hexp, Bus.hasNews_of_caughtUp hc₁,
              hs₁, hcan₁, hcan]
          · simp [Wake.due, Act.listenWake, waitDeadline, htm]
        have hround₁ : Finishes R t s
            (Act.listenRound rx kind timeout hard token (waitDeadline timeout t))
            (t + d.millisCeil) (s.afterScan rx kind) (.inl ()) := by
          refine finishes_listenRound_of_found ?_
          rw [hf]
          exact finishes_afterNothing_parks (hcan₁.trans hcan) htm (by omega) hwait
        have hround₂ : Finishes R (t + d.millisCeil) (s.afterScan rx kind)
            (Act.listenRound rx kind timeout hard token (waitDeadline timeout t))
            (t + d.millisCeil) (s.afterScan rx kind)
            (.inr (if hard then .error (Fault.timeout d) else .ok .timedOut)) := by
          refine finishes_listenRound_of_found ?_
          rw [hnothing, hsame]
          exact finishes_afterNothing_expired (hcan₁.trans hcan) htm le_rfl
        exact ⟨_, _, _, finishes_loop_iff.2 ⟨_, _, Sum.inl (), hround₁,
          finishes_loop_iff.2 ⟨_, _, Sum.inr _, hround₂, finishes_pure_iff.2 ⟨rfl, rfl, rfl⟩⟩⟩⟩

end Wait

end BrokerSession
