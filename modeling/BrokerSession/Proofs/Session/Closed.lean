import BrokerSession.Proofs.Session.Commit
import BrokerSession.Session.Producer

/-!
# A closed session

A disconnect closes a session for good. From then on its operations reach neither connection:
`connect` answers `closed`; `consume` counts an empty window and answers an empty batch, or
stops the program once the count is at its largest; `seek` and `partitionCount`
answer as if nothing was done; `commit`, `rollback` and `retryWindow` empty the window and
answer `ok`; a second `disconnect` does nothing, so the connection is disconnected once. The
producing session's `produce` answers `0` and its `connect` answers `closed`.

One exception: `commit` works out the delays of its partitions before any of them finds the
session closed, and a delay that does not fit in a span stops the program. So a commit of a
closed session answers only when its delays compute (`returns_commit_closed`), and with a
stagger near the largest a configuration can hold, a window of a thousand partitions is
enough to stop it (`staggerFits_largest_stagger`).

The operations touch a part of the world that the rest of the session leaves alone: the
closed flag, both connections, the pending commits, the window and the count of empty windows
(`World.ledger`). The
environment here may do anything else (`Keeping World.ledger`). `Does P p G v` says that on a
session whose ledger satisfies `P`, every run of `p` changes the ledger by `G` and answers `v`,
and `Never P p` that no run of it answers. `Does` composes along the `do` blocks of the
operations, so each is proved by following its code.
-/

namespace BrokerSession

/-- What a session's own operations change and the rest of the session leaves alone. -/
structure Ledger where
  closed : Bool
  consumer : ScriptedConsumer
  producer : ScriptedProducer
  pending : PartitionMap Nat
  window : OffsetWindow
  emptyWindows : Nat

def World.ledger (w : World) : Ledger :=
  ⟨w.closed, w.consumer, w.producer, w.pending, w.window, w.emptyWindows⟩

/-- What a disconnect leaves: closed, with the consumer connection down. -/
def Ledger.Shut (l : Ledger) : Prop := l.closed = true ∧ l.consumer.connected = false

/-- What a disconnect of an open consuming session leaves: closed, and the connection
disconnected once more. -/
def Ledger.shut (l : Ledger) : Ledger :=
  { l with closed := true, consumer := l.consumer.disconnect }

/-- The ledger with its window emptied. -/
def Ledger.emptyWindow (l : Ledger) : Ledger := { l with window := { topic := l.window.topic } }

/-- The ledger with one more empty window counted. -/
def Ledger.countEmpty (l : Ledger) : Ledger := { l with emptyWindows := l.emptyWindows + 1 }

/-- The world `w` with the ledger `l`. -/
def World.withLedger (w : World) (l : Ledger) : World :=
  { w with closed := l.closed, consumer := l.consumer, producer := l.producer,
           pending := l.pending, window := l.window, emptyWindows := l.emptyWindows }

@[simp] theorem World.ledger_withLedger (w : World) (l : Ledger) : (w.withLedger l).ledger = l :=
  rfl

open Proc

/-- On a session whose ledger satisfies `P`, `p` changes the ledger by `G` and answers `v`:
every run of it from such a session does so, and such runs exist. With `G = id`, `p` does
nothing that shows in the ledger. -/
def Does {α : Type} (P : Ledger → Prop) (p : Act α) (G : Ledger → Ledger) (v : α) : Prop :=
  ∀ ⦃t t' : Nat⦄ ⦃s s' : World⦄ ⦃a : α⦄, P s.ledger →
    (Returns (Keeping World.ledger) t s p t' s' a ↔ s'.ledger = G s.ledger ∧ a = v)

namespace Does

variable {α β : Type} {P Q : Ledger → Prop} {p : Act α} {G H : Ledger → Ledger} {v : α} {w : β}

theorem mono (hp : Does P p G v) (h : ∀ l, Q l → P l) : Does Q p G v :=
  fun _ _ _ _ _ hs => hp (h _ hs)

theorem bind {k : α → Act β} (hp : Does P p G v) (hk : Does Q (k v) H w)
    (hPQ : ∀ l, P l → Q (G l)) : Does P (p >>= k) (H ∘ G) w := by
  intro t t' s s' b hs
  rw [returns_bind_iff]
  constructor
  · rintro ⟨t₁, s₁, a, h₁, h₂⟩
    obtain ⟨hs₁, rfl⟩ := (hp hs).1 h₁
    obtain ⟨hs', hb⟩ := (hk (hs₁ ▸ hPQ _ hs)).1 h₂
    exact ⟨hs'.trans (congrArg H hs₁), hb⟩
  · rintro ⟨hs', rfl⟩
    -- the first process can stop in any world with the ledger it leaves
    have hP' : Q (s.withLedger (G s.ledger)).ledger := hPQ _ hs
    exact ⟨t, s.withLedger (G s.ledger), v, (hp hs).2 ⟨rfl, rfl⟩, (hk hP').2 ⟨hs', rfl⟩⟩

theorem id_bind {k : α → Act β} (hp : Does P p id v) (hk : Does P (k v) H w) :
    Does P (p >>= k) H w :=
  hp.bind hk fun _ h => h

end Does

/-- On a session whose ledger satisfies `P`, no run of `p` answers. -/
def Never {α : Type} (P : Ledger → Prop) (p : Act α) : Prop :=
  ∀ ⦃t t' : Nat⦄ ⦃s s' : World⦄ ⦃a : α⦄, P s.ledger → ¬Returns (Keeping World.ledger) t s p t' s' a

theorem Never.bind {α β : Type} {P : Ledger → Prop} {p : Act α} {k : α → Act β} (hp : Never P p) :
    Never P (p >>= k) := fun _ _ _ _ _ hs h => by
  obtain ⟨_, _, _, h₁, -⟩ := returns_bind_iff.1 h
  exact hp hs h₁

/-- A process that answers, then one that never does from where the first left the ledger. -/
theorem Does.bind_never {α β : Type} {P Q : Ledger → Prop} {p : Act α} {G : Ledger → Ledger}
    {v : α} {k : α → Act β} (hp : Does P p G v) (hk : Never Q (k v)) (hPQ : ∀ l, P l → Q (G l)) :
    Never P (p >>= k) := fun _ _ _ _ _ hs h => by
  obtain ⟨_, _, _, h₁, h₂⟩ := returns_bind_iff.1 h
  obtain ⟨hs₁, rfl⟩ := (hp hs).1 h₁
  exact hk (hs₁ ▸ hPQ _ hs) h₂

section Laws

variable {α β : Type} {P : Ledger → Prop} {G : Ledger → Ledger} {v : α}

theorem does_pure : Does P (Pure.pure v : Act α) id v := fun _ _ _ _ _ _ => by
  rw [pure_eq, keeping_pure_iff]
  exact And.comm

theorem does_gets_bind {h : World → β} {k : β → Act α}
    (hk : ∀ x : World, P x.ledger → Does P (k (h x)) G v) : Does P (gets h >>= k) G v := by
  intro t t' s s' a hs
  rw [keeping_gets_bind_iff]
  constructor
  · rintro ⟨x, hx, hr⟩
    obtain ⟨hx', ha⟩ := (hk x (hx ▸ hs) (hx ▸ hs)).1 hr
    exact ⟨hx'.trans (congrArg G hx), ha⟩
  · rintro ⟨hs', rfl⟩
    exact ⟨s, rfl, (hk s hs hs).2 ⟨hs', rfl⟩⟩

theorem does_get_bind {k : World → Act α} (hk : ∀ x : World, P x.ledger → Does P (k x) G v) :
    Does P (get >>= k) G v :=
  does_gets_bind (h := id) hk

theorem does_now_bind {k : Nat → Act α} (hk : ∀ t, Does P (k t) G v) : Does P (now >>= k) G v := by
  intro t t' s s' a hs
  rw [keeping_now_bind_iff]
  constructor
  · rintro ⟨t₁, hr⟩
    exact (hk t₁ hs).1 hr
  · intro h
    exact ⟨t, (hk t hs).2 h⟩

theorem does_modify {f : World → World} (hf : ∀ x, (f x).ledger = G x.ledger) :
    Does P (modify f) G () := by
  intro t t' s s' a hs
  show Returns _ t s (.look fun _ x => .put (f x) (.pure ())) t' s' a ↔ _
  rw [keeping_look_iff]
  simp only [keeping_put_iff, keeping_pure_iff]
  constructor
  · rintro ⟨_, x, hx, -, hr⟩
    exact ⟨hr.trans ((hf x).trans (congrArg G hx)), trivial⟩
  · rintro ⟨hs', -⟩
    exact ⟨t, s, rfl, trivial, hs'.trans (hf s).symm⟩

theorem does_closed_bind {k : Bool → Act α} (hP : ∀ l, P l → l.closed = true)
    (hk : Does P (k true) G v) : Does P (gets (·.closed) >>= k) G v :=
  does_gets_bind fun x hx => by
    rw [show x.closed = true from hP _ hx]
    exact hk

theorem does_sleep_bind {ms : Nat} {k : Unit → Act α} (hk : Does P (k ()) G v) :
    Does P (sleep ms >>= k) G v := by
  intro t t' s s' a hs
  show Returns _ t s (.look fun t₁ _ => .wait { deadline := some (t₁ + ms) } (k ())) t' s' a ↔ _
  rw [keeping_look_iff]
  constructor
  · rintro ⟨t₁, x, hx, hr⟩
    obtain ⟨t₂, y, hy, -, hr⟩ := keeping_wait_iff.1 hr
    obtain ⟨hy', ha⟩ := (hk ((hy.trans hx) ▸ hs)).1 hr
    exact ⟨hy'.trans (congrArg G (hy.trans hx)), ha⟩
  · intro h
    refine ⟨t, s, rfl, keeping_wait_iff.2 ⟨t + ms, s, rfl, by simp [Wake.due], (hk hs).2 h⟩⟩

end Laws

/-! ## The retry executor finds the session closed -/

section Retry

variable {β : Type} {kind : ActionKind} {check : Option (Act (Except Fault Unit))}
  {action : Act (Except Fault β)}

/-- A round of the retry executor on a closed session answers that nothing was done, without
the pre-check or the action. -/
theorem does_retryRound {canRetry : Bool} {again : Unit → Act (Except Fault (Option β))} :
    Does (·.closed = true) (Act.retryRound kind check action canRetry again) id (.ok none) := by
  unfold Act.retryRound
  exact does_closed_bind (fun _ h => h) does_pure

theorem does_retry (n : Nat) :
    Does (·.closed = true) (Act.retry kind check action n) id (.ok none) := by
  cases n <;> exact does_retryRound

theorem does_retryRacing {event : EventKind} (n : Nat) :
    Does (·.closed = true) (Act.retryRacing event kind check action n) id (.ok none) :=
  does_gets_bind fun _ _ => does_retry n

end Retry

/-! ## The consuming session's operations -/

/-- A consumer whose connection is down is never judged stuck. -/
theorem SessionConfig.verdict_of_disconnected {c : SessionConfig} {w : World}
    (h : w.consumer.connected = false) : c.verdict w = .healthy := by
  simp [SessionConfig.verdict, h]

section Consumer

variable (c : SessionConfig)

theorem does_connectConsumer :
    Does (·.closed = true) (Act.connectConsumer c) id (.error Fault.closed) := by
  unfold Act.connectConsumer
  exact does_closed_bind (fun _ h => h) does_pure

theorem does_consumeLoop (deadline maxSize fuel : Nat) (acc : List Message) (pulled : Nat) :
    Does (·.closed = true) (Act.consumeLoop c deadline maxSize (fuel + 1) acc pulled) id
      (.ok (acc, pulled)) := by
  unfold Act.consumeLoop
  by_cases h : pulled ≥ maxSize
  · simp only [h, if_true]
    exact does_pure
  · simp only [h, if_false]
    exact (does_retryRacing _).id_bind does_pure

theorem does_recordEmptyWindow :
    Does (fun l => l.emptyWindows < Backoff.countLimit) Act.recordEmptyWindow Ledger.countEmpty () := by
  intro t t' s s' a hs
  unfold Act.recordEmptyWindow
  rw [keeping_get_bind_iff]
  constructor
  · rintro ⟨x, hx, hr⟩
    have hx' : x.emptyWindows = s.emptyWindows := congrArg Ledger.emptyWindows hx
    have hroom : x.emptyWindows < Backoff.countLimit := by rw [hx']; exact hs
    rw [if_pos hroom, Proc.set, keeping_put_iff, keeping_pure_iff] at hr
    exact ⟨hr.2.trans (congrArg Ledger.countEmpty hx), hr.1⟩
  · rintro ⟨hs', rfl⟩
    refine ⟨s, rfl, ?_⟩
    rw [if_pos (show s.emptyWindows < Backoff.countLimit from hs), Proc.set, keeping_put_iff,
      keeping_pure_iff]
    exact ⟨rfl, hs'⟩

theorem never_recordEmptyWindow :
    Never (fun l => Backoff.countLimit ≤ l.emptyWindows) Act.recordEmptyWindow := by
  intro t t' s s' a hs h
  unfold Act.recordEmptyWindow at h
  obtain ⟨x, hx, hr⟩ := keeping_get_bind_iff.1 h
  have hx' : x.emptyWindows = s.emptyWindows := congrArg Ledger.emptyWindows hx
  have hfull : ¬x.emptyWindows < Backoff.countLimit := by rw [hx']; exact Nat.not_lt.2 hs
  rw [if_neg hfull] at hr
  exact not_returns_halt hr

/-- A shut session's window is empty; it counts as an empty window, and a connection that is
down is never judged stuck. -/
theorem does_consume (maxSize maxWaitMs : Nat) :
    Does (fun l => l.Shut ∧ l.emptyWindows < Backoff.countLimit) (Act.consume c maxSize maxWaitMs)
      Ledger.countEmpty (.ok []) := by
  unfold Act.consume
  refine does_now_bind fun t => ?_
  refine ((does_consumeLoop c _ _ _ [] 0).mono fun _ h => h.1.1).id_bind ?_
  refine Does.bind (Q := Ledger.Shut) (H := id) (does_recordEmptyWindow.mono fun _ h => h.2)
    (does_get_bind fun x hx => ?_) fun _ h => h.1
  simp only [SessionConfig.verdict_of_disconnected hx.2]
  exact does_pure

/-- With the count of empty windows at its largest, a shut session's `consume` stops the
program. -/
theorem never_consume_full (maxSize maxWaitMs : Nat) :
    Never (fun l => l.Shut ∧ Backoff.countLimit ≤ l.emptyWindows)
      (Act.consume c maxSize maxWaitMs) := by
  intro t t' s s' a hs h
  unfold Act.consume at h
  obtain ⟨t₁, h⟩ := keeping_now_bind_iff.1 h
  have hloop : Does (fun l => l.Shut ∧ Backoff.countLimit ≤ l.emptyWindows)
      (Act.consumeLoop c (t₁ + maxWaitMs) maxSize (maxSize + 1) [] 0) id (.ok ([], 0)) :=
    (does_consumeLoop c _ _ _ [] 0).mono fun _ h => h.1.1
  exact hloop.bind_never never_recordEmptyWindow.bind (fun _ h => h.2) hs h

theorem does_seek (p o : Int) : Does (·.closed = true) (Act.seek c p o) id (.ok ()) := by
  unfold Act.seek
  exact (does_retry _).id_bind does_pure

theorem does_partitionCount : Does (·.closed = true) (Act.partitionCount c) id (.ok 0) := by
  unfold Act.partitionCount
  exact (does_retry _).id_bind does_pure

theorem does_disconnectConsumer :
    Does (·.closed = true) Act.disconnectConsumer id (.ok ()) := by
  unfold Act.disconnectConsumer
  exact does_closed_bind (fun _ h => h) does_pure

variable {P : Ledger → Prop}

theorem does_disarmTimer : Does P Act.disarmTimer id () :=
  does_modify fun x => by
    cases x.coordinator.timer <;> rfl

theorem does_consumerDisconnect :
    Does P Act.consumerDisconnect (fun l => { l with consumer := l.consumer.disconnect }) () := by
  unfold Act.consumerDisconnect
  exact Does.bind (G := fun l => { l with consumer := l.consumer.disconnect }) (H := id)
    (Q := fun _ => True) (does_modify fun _ => rfl) (does_modify fun _ => rfl) fun _ _ => trivial

theorem does_disconnectConsumer_open :
    Does (·.closed = false) Act.disconnectConsumer Ledger.shut (.ok ()) := by
  unfold Act.disconnectConsumer
  refine does_gets_bind fun x hx => ?_
  rw [show x.closed = false from hx, if_neg Bool.false_ne_true]
  -- the flag, then the scope's and the timer's tokens off the ledger, then the connection
  refine Does.bind (G := fun l => { l with closed := true })
    (H := fun l => { l with consumer := l.consumer.disconnect }) (Q := fun _ => True) (v := ())
    ?_ ?_ fun _ _ => trivial
  · exact does_modify fun _ => rfl
  refine does_gets_bind fun _ _ => Does.id_bind (does_modify fun _ => rfl) ?_
  refine does_disarmTimer.id_bind
    (Does.bind (H := id) (Q := fun _ => True) does_consumerDisconnect ?_ fun _ _ => trivial)
  exact does_pure

end Consumer

/-! ## The delays of a commit -/

/-- The delays of a commit of `n` partitions all fit in a span. -/
def SessionConfig.staggerFits (c : SessionConfig) (n : Nat) : Bool :=
  ((List.range n).mapM (Act.staggerDelay c)).isOk

namespace SessionConfig

variable {c : SessionConfig} {n : Nat}

@[simp] theorem staggerFits_zero : c.staggerFits 0 = true := rfl

theorem staggerFits_iff :
    c.staggerFits n = true ↔ ∃ delays, (List.range n).mapM (Act.staggerDelay c) = .ok delays := by
  unfold staggerFits
  cases (List.range n).mapM (Act.staggerDelay c) with
  | error e => exact ⟨fun h => absurd h Bool.false_ne_true, fun ⟨_, h⟩ => nomatch h⟩
  | ok ds => exact ⟨fun _ => ⟨ds, rfl⟩, fun _ => rfl⟩

/-- A list mapped into `Except` without a failure maps each element without one. -/
theorem isOk_of_mapM_isOk {ε β : Type} {f : Nat → Except ε β} {l : List Nat}
    (h : (l.mapM f).isOk = true) : ∀ x ∈ l, (f x).isOk = true := by
  induction l with
  | nil => simp
  | cons a l ih =>
    rw [List.mapM_cons] at h
    cases ha : f a with
    | error e => rw [ha] at h; exact absurd h Bool.false_ne_true
    | ok b =>
      cases hl : l.mapM f with
      | error e => rw [ha, hl] at h; exact absurd h Bool.false_ne_true
      | ok bs =>
        intro x hx
        rcases List.mem_cons.1 hx with rfl | hx
        · rw [ha]; rfl
        · exact ih (by rw [hl]; rfl) x hx

/-- One delay that does not fit is enough. -/
theorem staggerFits_eq_false {i : Nat} (hi : i < n) (h : (Act.staggerDelay c i).isOk = false) :
    c.staggerFits n = false := by
  cases hn : c.staggerFits n with
  | false => rfl
  | true =>
    have := isOk_of_mapM_isOk hn i (List.mem_range.2 hi)
    exact absurd (h.symm.trans this) Bool.false_ne_true

/-- With a stagger of `2^64 - 1` ms, the largest a configuration reads, the delay of the
thousandth partition after the first overflows: a stagger and a half over. -/
theorem staggerFits_largest_stagger :
    ({ topic := "t", commitStaggerMs := 18446744073709551615 } : SessionConfig).staggerFits 1001
      = false :=
  staggerFits_eq_false (i := 1000) (by decide) (by decide +kernel)

end SessionConfig

/-! ## Emptying the window of a closed session -/

section Window

variable {α : Type} {v : Ledger} {t t' : Nat} {s s' : World}

theorem keeps_closed_bind (hv : v.closed = true) {k : Bool → Act α}
    (hk : Keeps World.ledger v (k true)) : Keeps World.ledger v (gets (·.closed) >>= k) :=
  .look fun _ x hx => by
    show Keeps World.ledger v (k x.closed)
    rw [show x.closed = true from (congrArg Ledger.closed hx).trans hv]
    exact hk

theorem keeps_retry_closed {β : Type} {kind : ActionKind} {check : Option (Act (Except Fault Unit))}
    {action : Act (Except Fault β)} (hv : v.closed = true) (n : Nat) :
    Keeps World.ledger v (Act.retry kind check action n) := by
  cases n <;> exact keeps_closed_bind hv .pure

/-- What a process that does nothing answers, from a world with the ledger `v`. -/
theorem answers_iff_of_does {P : Ledger → Prop} {p : Act α} {a₀ a : α} (hp : Does P p id a₀)
    (hs : s.ledger = v) (hP : P v) : Answers World.ledger v p a ↔ a = a₀ := by
  constructor
  · rintro ⟨t₁, x, t₂, x', hx, hr⟩
    exact ((hp (hx ▸ hP)).1 hr).2
  · rintro rfl
    exact ⟨0, s, 0, s, hs, (hp (hs ▸ hP)).2 ⟨rfl, rfl⟩⟩

/-- Runs side by side that each answer only `a₀` answer `a₀` each. -/
theorem forall₂_answers_iff {ps : List (Act α)} {rs : List α} {a₀ : α}
    (h : ∀ p ∈ ps, ∀ a, Answers World.ledger v p a ↔ a = a₀) :
    List.Forall₂ (Answers World.ledger v) ps rs ↔ rs = ps.map fun _ => a₀ := by
  induction ps generalizing rs with
  | nil => simp
  | cons p ps ih =>
    cases rs with
    | nil => simp
    | cons r rs =>
      rw [List.forall₂_cons, h p (List.mem_cons_self ..),
        ih fun q hq => h q (List.mem_cons_of_mem _ hq)]
      simp

theorem faultsOf_ok_none {β δ : Type} (l : List δ) :
    Act.faultsOf (l.map fun _ => (.ok none : Except Fault (Option β))) = [] := by
  simp [Act.faultsOf]

theorem returns_all_map_closed_bind_iff {β γ δ : Type} {l : List δ}
    {f : δ → Act (Except Fault (Option β))} {k : List (Except Fault (Option β)) → Act γ} {a : γ}
    (hs : s.closed = true) (hp : ∀ x, Does (·.closed = true) (f x) id (.ok none))
    (hk : ∀ x, Keeps World.ledger s.ledger (f x)) :
    Returns (Keeping World.ledger) t s (all (l.map f) >>= k) t' s' a ↔
      Returns (Keeping World.ledger) t s (k (l.map fun _ => .ok none)) t' s' a := by
  rw [returns_all_bind_iff (fun p hp' => by obtain ⟨x, -, rfl⟩ := List.mem_map.1 hp'; exact hk x) rfl]
  have hans : ∀ p ∈ l.map f, ∀ r, Answers World.ledger s.ledger p r ↔ r = .ok none := by
    intro p hp' r
    obtain ⟨x, -, rfl⟩ := List.mem_map.1 hp'
    exact answers_iff_of_does (hp x) rfl hs
  simp only [forall₂_answers_iff hans, exists_eq_left, List.map_map, Function.comp_def]

variable (c : SessionConfig)

theorem does_commitPartition (pos : Position) (d : Span) :
    Does (·.closed = true) (Act.commitPartition c pos d) id (.ok none) := by
  unfold Act.commitPartition
  exact does_sleep_bind (does_retry _)

/-- A commit of a closed session empties the window and answers `ok`, committing nothing,
provided the delays of its partitions compute: the delays come first, and one that does not fit
in a span stops the program, so that the commit never answers. -/
theorem returns_commit_closed {r : Except Fault Unit} (hs : s.closed = true) :
    Returns (Keeping World.ledger) t s (Act.commit c) t' s' r ↔
      s'.ledger = s.ledger.emptyWindow ∧ r = .ok () ∧
      c.staggerFits s.window.ended.length = true := by
  unfold Act.commit
  rw [keeping_get_bind_iff]
  simp only [OffsetWindow.flush, keeping_set_bind_iff]
  -- the world read has the ledger of `s`, and nothing else of it is used
  refine Iff.trans ⟨fun h => ?_, fun h => ⟨s, rfl, h⟩⟩ ?_
  · obtain ⟨x, hx, hr⟩ := h
    rw [show x.window = s.window from congrArg Ledger.window hx] at hr
    exact hr.restart (congrArg (fun l : Ledger => { l with window := { topic := s.window.topic } })
      hx.symm)
  -- the ledger once the window is emptied, closed still
  have hv : ({ s with window := { s.window with started := [], ended := [] } } : World).ledger =
      s.ledger.emptyWindow := rfl
  by_cases he : s.window.ended = []
  · simp only [he, List.map_nil, List.isEmpty_nil, if_true, pure_eq, keeping_pure_iff, hv,
      List.length_nil, SessionConfig.staggerFits_zero, and_true]
    exact And.comm
  · have hne : (s.window.ended.map fun x : Int × Int =>
        ({ partition := { topic := s.window.topic, number := x.1 }, offset := x.2 } : Position)).isEmpty
        = false := by
      simpa using he
    -- every partition's run waits its delay and finds the session closed
    have hs' : ({ s with window := { topic := s.window.topic } } : World).closed = true := hs
    simp only [hne, Bool.false_eq_true, if_false, SessionConfig.staggerFits_iff, returns_orHalt_bind_iff,
      mapM_zipIdx_snd, List.length_map,
      returns_all_map_closed_bind_iff hs' (fun x : Position × Span => does_commitPartition c x.1 x.2)
        (fun _ => keeps_sleep.bind fun _ => keeps_retry_closed hs _),
      faultsOf_ok_none, pure_eq, keeping_pure_iff]
    constructor
    · rintro ⟨d, hd, hr, hl⟩
      exact ⟨hl, hr, d, hd⟩
    · rintro ⟨hl, hr, d, hd⟩
      exact ⟨d, hd, hr, hl⟩

/-- A loop whose every step goes on with its state as it was. -/
theorem forIn_yield {γ β : Type} {l : List γ} {b : β} {f : γ → β → Act (ForInStep β)}
    (h : ∀ x ∈ l, f x b = .pure (.yield b)) : forIn l b f = .pure b := by
  induction l with
  | nil => rfl
  | cons x l ih =>
    rw [List.forIn_cons, h x (List.mem_cons_self ..)]
    exact ih fun y hy => h y (List.mem_cons_of_mem _ hy)

theorem returns_rollback_closed {r : Except Fault Unit} (hs : s.closed = true) :
    Returns (Keeping World.ledger) t s (Act.rollback c) t' s' r ↔
      s'.ledger = s.ledger.emptyWindow ∧ r = .ok () := by
  unfold Act.rollback
  rw [keeping_get_bind_iff]
  simp only [OffsetWindow.flush, keeping_set_bind_iff]
  -- the world read has the ledger of `s`, and nothing else of it is used
  refine Iff.trans ⟨fun h => ?_, fun h => ⟨s, rfl, h⟩⟩ ?_
  · obtain ⟨x, hx, hr⟩ := h
    rw [show x.window = s.window from congrArg Ledger.window hx] at hr
    exact hr.restart (congrArg (fun l : Ledger => { l with window := { topic := s.window.topic } })
      hx.symm)
  by_cases he : s.window.started = []
  · simp only [he, List.map_nil, List.isEmpty_nil, if_true, pure_eq, keeping_pure_iff]
    exact And.comm
  · have hne : (s.window.started.map fun x : Int × Int =>
        ({ partition := { topic := s.window.topic, number := x.1 }, offset := x.2 } : Position)).isEmpty
        = false := by
      simpa using he
    -- every partition's seek finds the session closed, and the loop over the answers does nothing
    have hs' : ({ s with window := { topic := s.window.topic } } : World).closed = true := hs
    simp only [hne, Bool.false_eq_true, if_false, List.map_map, Function.comp_def,
      returns_all_map_closed_bind_iff hs' (fun _ : Int × Int => does_retry _)
        (fun _ => keeps_retry_closed hs _)]
    rw [forIn_yield, bind_eq, Proc.pure_bind, pure_eq, keeping_pure_iff]
    · exact And.comm
    · rintro ⟨pos, r⟩ hx
      obtain ⟨_, -, rfl⟩ := List.mem_map.1 (List.of_mem_zip hx).2
      rfl

theorem does_commit_closed :
    Does (fun l => l.closed = true ∧ c.staggerFits l.window.ended.length = true) (Act.commit c)
      Ledger.emptyWindow (.ok ()) := fun _ _ _ _ _ hs => by
  rw [returns_commit_closed c hs.1]
  exact ⟨fun h => ⟨h.1, h.2.1⟩, fun h => ⟨h.1, h.2, hs.2⟩⟩

theorem never_commit_closed :
    Never (fun l => l.closed = true ∧ c.staggerFits l.window.ended.length = false)
      (Act.commit c) := fun _ _ _ _ _ hs h =>
  absurd (hs.2.symm.trans ((returns_commit_closed c hs.1).1 h).2.2) Bool.false_ne_true

theorem does_rollback_closed :
    Does (·.closed = true) (Act.rollback c) Ledger.emptyWindow (.ok ()) := fun _ _ _ _ _ hs =>
  returns_rollback_closed c hs

theorem does_retryWindow_closed :
    Does (fun l => l.closed = true ∧
        (c.rollbackOnFailure = true ∨ c.staggerFits l.window.ended.length = true))
      (Act.retryWindow c) Ledger.emptyWindow (.ok ()) := by
  unfold Act.retryWindow
  cases h : c.rollbackOnFailure with
  | true => exact (does_rollback_closed c).mono fun _ hl => hl.1
  | false =>
    refine (does_commit_closed c).mono fun _ hl => ⟨hl.1, ?_⟩
    exact hl.2.resolve_left Bool.false_ne_true

theorem never_retryWindow_closed :
    Never (fun l => l.closed = true ∧ c.rollbackOnFailure = false ∧
        c.staggerFits l.window.ended.length = false) (Act.retryWindow c) := by
  intro _ _ _ _ _ hs
  unfold Act.retryWindow
  rw [hs.2.1, if_neg Bool.false_ne_true]
  exact never_commit_closed c ⟨hs.1, hs.2.2⟩

end Window

/-! ## The producing session's operations -/

section Producer

variable (c : SessionConfig)

theorem does_produce (records : List Record) :
    Does (·.closed = true) (Act.produce c records) id (.ok 0) := by
  unfold Act.produce
  exact does_closed_bind (fun _ h => h) does_pure

theorem does_connectProducer :
    Does (·.closed = true) (Act.connectProducer c) id (.error Fault.closed) := by
  unfold Act.connectProducer
  exact does_closed_bind (fun _ h => h) does_pure

theorem does_disconnectProducer :
    Does (·.closed = true) Act.disconnectProducer id (.ok ()) := by
  unfold Act.disconnectProducer
  exact does_closed_bind (fun _ h => h) does_pure

theorem does_disconnectProducer_open :
    Does (·.closed = false) Act.disconnectProducer
      (fun l => { l with closed := true, producer := { l.producer with connected := false } })
      (.ok ()) := by
  unfold Act.disconnectProducer
  refine does_gets_bind fun x hx => ?_
  rw [show x.closed = false from hx, if_neg Bool.false_ne_true]
  -- the flag, then the scope's tokens off the ledger, then the connection
  refine Does.bind (G := fun l => { l with closed := true })
    (H := fun l => { l with producer := { l.producer with connected := false } })
    (Q := fun _ => True) (v := ()) ?_ ?_ fun _ _ => trivial
  · exact does_modify fun _ => rfl
  refine does_gets_bind fun _ _ => Does.id_bind (does_modify fun _ => rfl) ?_
  refine Does.bind (H := id) (Q := fun _ => True) (does_modify fun _ => rfl) ?_ fun _ _ => trivial
  exact (does_modify fun _ => rfl).id_bind does_pure

end Producer

/-- Once disconnected, a session's operations reach neither connection: a second disconnect does
nothing, `connect` answers `closed`, `seek` `ok`, `partitionCount` `0`, `consume` counts an empty
window while the count has room, and `rollback`, `commit` and `retryWindow` empty the window and
answer `ok` when the delays fit; a closed producer answers `0` and `closed`. -/
theorem disconnected_session_operations (c : SessionConfig) (maxSize maxWaitMs : Nat)
    (p o : Int) (records : List Record) :
    Does (·.closed = false) Act.disconnectConsumer Ledger.shut (.ok ()) ∧
    (∀ l : Ledger, l.shut.Shut) ∧
    Does Ledger.Shut Act.disconnectConsumer id (.ok ()) ∧
    Does Ledger.Shut (Act.connectConsumer c) id (.error Fault.closed) ∧
    Does (fun l => l.Shut ∧ l.emptyWindows < Backoff.countLimit) (Act.consume c maxSize maxWaitMs)
      Ledger.countEmpty (.ok []) ∧
    Never (fun l => l.Shut ∧ Backoff.countLimit ≤ l.emptyWindows) (Act.consume c maxSize maxWaitMs) ∧
    Does Ledger.Shut (Act.seek c p o) id (.ok ()) ∧
    Does Ledger.Shut (Act.partitionCount c) id (.ok 0) ∧
    Does Ledger.Shut (Act.rollback c) Ledger.emptyWindow (.ok ()) ∧
    Does (fun l => l.Shut ∧ c.staggerFits l.window.ended.length = true) (Act.commit c)
      Ledger.emptyWindow (.ok ()) ∧
    Never (fun l => l.Shut ∧ c.staggerFits l.window.ended.length = false) (Act.commit c) ∧
    Does (fun l => l.Shut ∧
        (c.rollbackOnFailure = true ∨ c.staggerFits l.window.ended.length = true))
      (Act.retryWindow c) Ledger.emptyWindow (.ok ()) ∧
    Never (fun l => l.Shut ∧ c.rollbackOnFailure = false ∧
        c.staggerFits l.window.ended.length = false) (Act.retryWindow c) ∧
    Does (·.closed = false) Act.disconnectProducer
      (fun l => { l with closed := true, producer := { l.producer with connected := false } })
      (.ok ()) ∧
    Does (·.closed = true) (Act.produce c records) id (.ok 0) ∧
    Does (·.closed = true) (Act.connectProducer c) id (.error Fault.closed) := by
  -- the retry executor and the early returns need only the closed flag; `consume` also needs
  -- the connection down, which is what keeps its verdict healthy
  have closed : ∀ l : Ledger, l.Shut → l.closed = true := fun _ h => h.1
  refine ⟨does_disconnectConsumer_open, fun _ => ⟨rfl, rfl⟩, does_disconnectConsumer.mono closed,
    (does_connectConsumer c).mono closed, does_consume c maxSize maxWaitMs,
    never_consume_full c maxSize maxWaitMs,
    (does_seek c p o).mono closed, (does_partitionCount c).mono closed,
    (does_rollback_closed c).mono closed, ?_, ?_, ?_, ?_, does_disconnectProducer_open,
    does_produce c records, does_connectProducer c⟩
  · exact (does_commit_closed c).mono fun _ h => ⟨h.1.1, h.2⟩
  · exact fun _ _ _ _ _ h => never_commit_closed c ⟨h.1.1, h.2⟩
  · exact (does_retryWindow_closed c).mono fun _ h => ⟨h.1.1, h.2⟩
  · exact fun _ _ _ _ _ h => never_retryWindow_closed c ⟨h.1.1, h.2⟩

end BrokerSession
