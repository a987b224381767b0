import BrokerSession.Proofs.Cancel
import BrokerSession.Proofs.Proc.Step
import BrokerSession.Scenario.Rebalance

/-!
# A coordinator and its timers

The coordinator's calls and the timers they arm, as one system. A state (`Timers`) is the
clock, the world and the timer tasks armed so far, oldest first. A move (`Timers.step`) is a
call on the coordinator (a revoke, an assignment, a reported error, a shutdown, or the
session's scope being cancelled), a turn of one timer task, or the clock moving forward. A
call or a turn runs its process as the scheduler runs one: polled until it parks or finishes,
with nothing else running meanwhile. Any move may come next, so the runs (`Timers.run`) are
all interleavings of calls with the timers' turns and the passing of time.

The timer of a token is armed (spawned, not yet run), parked (it has read the clock and waits
for its deadline or its token's cancellation), or done (`TimerState`). Woken with its token
cancelled it does nothing, unless its deadline has passed as well: its select is unbiased, and
the world says which branch wins such a tie (`World.expiryWinsTie`).

Every move is summed up once by a lemma that says what it does to the world and to the tasks
(`Timers.step_revoke_start`, `Timers.step_turn_timer`, ...), read off the poll of its process;
the coordinator's invariants are proved from these alone.
-/

namespace BrokerSession

/-! ## Polling code that does not branch on the scheduler -/

namespace Proc

variable {σ α : Type} {now n : Nat} {s : σ} {acc : List (Proc σ Unit)}

@[simp] theorem pollFrom_look {k : Nat → σ → Proc σ α} :
    pollFrom now (n + 1) s acc (.look k) = pollFrom now n s acc (k now s) := rfl

@[simp] theorem pollFrom_put {s' : σ} {k : Proc σ α} :
    pollFrom now (n + 1) s acc (.put s' k) = pollFrom now n s' acc k := rfl

@[simp] theorem pollFrom_pure {a : α} :
    pollFrom now (n + 1) s acc (.pure a) = { world := s, rest := .pure a, spawned := acc } := rfl

@[simp] theorem pollFrom_spawn {c : Proc σ Unit} {k : Proc σ α} :
    pollFrom now (n + 1) s acc (.spawn c k) = pollFrom now n s (c :: acc) k := rfl

theorem pollFrom_wait {w : Wake σ} {k : Proc σ α} :
    pollFrom now (n + 1) s acc (.wait w k) =
      if w.due now s then pollFrom now n s acc k
      else { world := s, rest := .wait w k, spawned := acc } := rfl

/-- A finished process polls to itself. -/
@[simp] theorem poll_pure {a : α} : poll now turnLength s (.pure a : Proc σ α) =
    { world := s, rest := .pure a } := rfl

end Proc

/-! ## The timer's states -/

namespace Act

/-- What the rebalance timer of `token` with deadline `deadline` does once woken: it ends a
rebalance still in flight when it takes its expiry (`World.timerExpires`). -/
def timerExpiry (token deadline : Nat) : Act Unit := do
  if (← Proc.get).timerExpires token deadline (← Proc.now) then
    Proc.modify fun w => { w with coordinator := w.coordinator.expire }

/-- The rebalance timer of `token` once it has read the clock: parked until `deadline` or the
cancellation of its token. -/
def timerParked (token deadline : Nat) : Act Unit :=
  .wait { deadline := some deadline, ready := (·.isCancelled token) } (timerExpiry token deadline)

/-- The timer reads the clock once and parks until the deadline its delay gives. -/
theorem rebalanceTimer_eq (token : Nat) (delay : Span) :
    rebalanceTimer token delay = .look fun t _ => timerParked token (t + delay.millisCeil) := rfl

end Act

/-- The timer of `token` has not run out: armed and not yet run, or parked on its deadline. -/
inductive TimerPending (token : Nat) : Act Unit → Prop
  | armed (delay : Span) : TimerPending token (Act.rebalanceTimer token delay)
  | parked (deadline : Nat) : TimerPending token (Act.timerParked token deadline)

/-- A state of the timer of `token`: pending, or done. -/
def TimerState (token : Nat) (p : Act Unit) : Prop := TimerPending token p ∨ p = .pure ()

/-- The timer of `token`, run at `t`, finds its deadline passed: it is parked on a deadline
no later than `t`, or it has not run yet and its delay is shorter than a millisecond. -/
def TimerDue (token t : Nat) (p : Act Unit) : Prop :=
  (∃ d : Span, p = Act.rebalanceTimer token d ∧ d.millisCeil = 0) ∨
    ∃ dl, p = Act.timerParked token dl ∧ dl ≤ t

namespace Act

theorem rebalanceTimer_ne_timerParked {k k' dl : Nat} {d : Span} :
    rebalanceTimer k d ≠ timerParked k' dl := by
  rw [rebalanceTimer_eq]
  simp [timerParked]

/-- A timer's deadline is read off the process: two timers that agree run out together. -/
theorem millisCeil_of_rebalanceTimer_eq {k k' : Nat} {d d' : Span}
    (h : rebalanceTimer k d = rebalanceTimer k' d') : d.millisCeil = d'.millisCeil := by
  rw [rebalanceTimer_eq, rebalanceTimer_eq, Proc.look.injEq] at h
  have h0 := congrFun (congrFun h 0) (World.fresh "" {})
  simp only [timerParked, Proc.wait.injEq, Wake.mk.injEq, Option.some.injEq, Nat.zero_add] at h0
  exact h0.1.1

theorem timerParked_inj {k k' dl dl' : Nat} (h : timerParked k dl = timerParked k' dl') :
    dl = dl' := by
  simp only [timerParked, Proc.wait.injEq, Wake.mk.injEq, Option.some.injEq] at h
  exact h.1.1

end Act

theorem TimerPending.state {k : Nat} {p : Act Unit} (h : TimerPending k p) : TimerState k p := .inl h

theorem TimerPending.ne_pure {k : Nat} {p : Act Unit} (h : TimerPending k p) : p ≠ .pure () := by
  cases h with
  | armed d => rw [Act.rebalanceTimer_eq]; simp
  | parked dl => simp [Act.timerParked]

theorem timerState_done (k : Nat) : TimerState k (.pure ()) := .inr rfl

section TimerPoll

open Proc

variable {k t n : Nat} {w : World}

theorem pollFrom_timerExpiry {dl : Nat} :
    pollFrom t (n + 5) w [] (Act.timerExpiry k dl) =
      if w.timerExpires k dl t then
        { world := { w with coordinator := w.coordinator.expire }, rest := .pure () }
      else { world := w, rest := .pure () } := by
  unfold Act.timerExpiry
  split <;> simp_all [Proc.get, Proc.now, Proc.modify, Proc.bind]

/-- A parked timer wakes at its deadline or at its token's cancellation, and stays parked
before both. -/
theorem pollFrom_timerParked {dl : Nat} :
    pollFrom t (n + 6) w [] (Act.timerParked k dl) =
      if dl ≤ t ∨ w.isCancelled k = true then pollFrom t (n + 5) w [] (Act.timerExpiry k dl)
      else { world := w, rest := Act.timerParked k dl } := by
  rw [Act.timerParked, pollFrom_wait]
  congr 1
  simp [Wake.due]

/-- A pending timer comes down to a parked one: the armed timer parks at once on its delay from
now. Its deadline has passed exactly when it is due. -/
theorem poll_timerPending {p : Act Unit} (hp : TimerPending k p) :
    ∃ n dl, (p.poll t turnLength w =
      let r := pollFrom t (n + 6) w [] (Act.timerParked k dl)
      { r with spawned := r.spawned.reverse }) ∧ (TimerDue k t p ↔ dl ≤ t) := by
  cases hp with
  | armed d =>
    refine ⟨999993, t + d.millisCeil, rfl, ⟨?_, fun h => .inl ⟨d, rfl, by omega⟩⟩⟩
    rintro (⟨d', h, h0⟩ | ⟨dl, h, -⟩)
    · have := Act.millisCeil_of_rebalanceTimer_eq h
      omega
    · exact absurd h Act.rebalanceTimer_ne_timerParked
  | parked dl =>
    refine ⟨999994, dl, rfl, ⟨?_, fun h => .inr ⟨dl, rfl, h⟩⟩⟩
    rintro (⟨d, h, -⟩ | ⟨dl', h, hle⟩)
    · exact absurd h.symm Act.rebalanceTimer_ne_timerParked
    · rwa [Act.timerParked_inj h]

/-- A turn of a timer of `k`. It ends and changes nothing, which needs its token cancelled
unless it had finished; or it stays pending and changes nothing; or it ends the rebalance in
flight, which needs its token live, or its deadline passed and the tie won by the expiry. -/
theorem poll_timer {p : Act Unit} (hp : TimerState k p) :
    ((w.isCancelled k = true ∨ p = .pure ()) ∧
      p.poll t turnLength w = { world := w, rest := .pure () }) ∨
    (∃ q, TimerPending k p ∧ TimerPending k q ∧
      p.poll t turnLength w = { world := w, rest := q }) ∨
    (TimerPending k p ∧ (w.isCancelled k = false ∨ (TimerDue k t p ∧ w.expiryWinsTie k = true)) ∧
      p.poll t turnLength w =
        { world := { w with coordinator := w.coordinator.expire }, rest := .pure () }) := by
  rcases hp with hpp | rfl
  · obtain ⟨n, dl, hpoll, hdue⟩ := poll_timerPending (t := t) (w := w) hpp
    rw [hpoll, pollFrom_timerParked]
    by_cases hwake : dl ≤ t ∨ w.isCancelled k = true
    · simp only [if_pos hwake, pollFrom_timerExpiry]
      cases hx : w.timerExpires k dl t
      · -- the cancellation won: the token is cancelled
        refine .inl ⟨.inl ?_, rfl⟩
        cases hc : w.isCancelled k
        · simp [World.timerExpires, hc] at hx
        · rfl
      · -- the expiry won: the token is live, or the deadline passed and the tie went its way
        refine .inr (.inr ⟨hpp, ?_, rfl⟩)
        cases hc : w.isCancelled k
        · exact .inl rfl
        · simp only [World.timerExpires, hc, Bool.not_true, Bool.false_or, Bool.and_eq_true,
            decide_eq_true_eq] at hx
          exact .inr ⟨hdue.2 hx.1, hx.2⟩
    · simp only [if_neg hwake]
      exact .inr (.inl ⟨_, hpp, .parked dl, rfl⟩)
  · exact .inl ⟨.inr rfl, rfl⟩

end TimerPoll

/-! ## The system -/

/-- Something that happens to a coordinator and its timers: a call, a turn of the `i`th timer
task, or the clock moving to `t`. -/
inductive TimersMove where
  | call (e : CoordinatorEvent)
  | turn (i : Nat)
  | tick (t : Nat)
  deriving Repr

/-- The clock, the world and the timer tasks armed so far, oldest first. -/
structure Timers where
  now : Nat
  world : World
  tasks : List (Act Unit)

/-- The tokens with the armed timer's token cancelled, if a timer is armed. -/
def World.disarmedTokens (w : World) : Tokens :=
  match w.coordinator.timer with
  | some k => w.tokens.cancel k
  | none => w.tokens

/-- The tokens once a new timer is armed: a new token below the scope, and the token of the
timer it replaces cancelled. -/
def World.armedTokens (w : World) : Tokens :=
  match w.coordinator.timer with
  | some old => (w.tokens.child w.scope).2.cancel old
  | none => (w.tokens.child w.scope).2

namespace Coordinator

variable {c : Coordinator}

theorem isRebalancing_eq_false : c.isRebalancing = false ↔ c.phase = .stable := by
  unfold isRebalancing
  cases c.phase <;> simp

/-- An expiry leaves the coordinator stable, whatever it was. -/
@[simp] theorem phase_expire : c.expire.phase = .stable := by
  unfold expire
  split
  · rfl
  · rename_i h
    exact isRebalancing_eq_false.1 (Bool.eq_false_iff.2 h)

@[simp] theorem timer_expire : c.expire.timer = c.timer := by
  unfold expire
  split <;> rfl

@[simp] theorem assignment_expire : c.expire.assignment = c.assignment := by
  unfold expire
  split <;> rfl

end Coordinator

namespace World

variable {w : World} {k : Nat}

@[simp] theorem size_disarmedTokens : w.disarmedTokens.nodes.size = w.tokens.nodes.size := by
  unfold disarmedTokens
  split <;> simp

@[simp] theorem parentOf_disarmedTokens : w.disarmedTokens.parentOf k = w.tokens.parentOf k := by
  unfold disarmedTokens
  split <;> simp

theorem isCancelled_disarmedTokens_of (h : w.tokens.isCancelled k = true) :
    w.disarmedTokens.isCancelled k = true := by
  unfold disarmedTokens
  split
  · exact Tokens.isCancelled_cancel_of h
  · exact h

/-- Disarming cancels the armed timer's token. -/
theorem isCancelled_disarmedTokens_timer (h : w.coordinator.timer = some k)
    (hk : k < w.tokens.nodes.size) : w.disarmedTokens.isCancelled k = true := by
  simp only [disarmedTokens, h]
  exact Tokens.isCancelled_cancel_self hk

@[simp] theorem size_armedTokens : w.armedTokens.nodes.size = w.tokens.nodes.size + 1 := by
  unfold armedTokens
  split <;> simp

@[simp] theorem parentOf_armedTokens :
    w.armedTokens.parentOf k = (w.tokens.child w.scope).2.parentOf k := by
  unfold armedTokens
  split <;> simp

theorem isCancelled_armedTokens_of (h : w.tokens.isCancelled k = true) :
    w.armedTokens.isCancelled k = true := by
  have hc := Tokens.isCancelled_child_of w.scope h
  unfold armedTokens
  split
  · exact Tokens.isCancelled_cancel_of hc
  · exact hc

/-- Arming cancels the token of the timer it replaces. -/
theorem isCancelled_armedTokens_timer (h : w.coordinator.timer = some k)
    (hk : k < w.tokens.nodes.size) : w.armedTokens.isCancelled k = true := by
  simp only [armedTokens, h]
  exact Tokens.isCancelled_cancel_self (by simp; omega)

/-- The new token starts cancelled exactly when the scope is: the token it replaces lies above
the scope's other children, not above the new one. -/
theorem isCancelled_armedTokens_new
    (hold : ∀ old, w.coordinator.timer = some old → old < w.tokens.nodes.size ∧ w.scope < old) :
    w.armedTokens.isCancelled w.tokens.nodes.size = w.tokens.isCancelled w.scope := by
  have hchild : (w.tokens.child w.scope).2.isCancelled w.tokens.nodes.size =
      w.tokens.isCancelled w.scope := by
    simp [Tokens.isCancelled_child]
  unfold armedTokens
  split
  · rename_i old hslot
    obtain ⟨hlt, hsc⟩ := hold old hslot
    -- the new token is not below the old one: its only parent is the scope, below `old`
    have hnot : ¬(w.tokens.child w.scope).2.Under old w.tokens.nodes.size := by
      intro hu
      rcases Tokens.under_iff.1 hu with h | ⟨p, hp, -, hup⟩
      · omega
      · rw [Tokens.parentOf_child, if_pos rfl, Option.some.injEq] at hp
        subst hp
        have := hup.le
        omega
    rw [← hchild, Bool.eq_iff_iff, Tokens.isCancelled_cancel (by simp), or_iff_left hnot]
  · exact hchild

end World

namespace Timers

/-- A fresh coordinator of a session on `topic` with backoff settings `s`, at time `t`, its
timers' selects settling ties as `ties` says. -/
def fresh (topic : String) (s : BackoffSettings) (t : Nat) (ties : Nat → Bool) : Timers :=
  { now := t, world := { World.fresh topic s with expiryWinsTie := ties }, tasks := [] }

/-- Runs `p` for one turn, as the scheduler does: the world it leaves, and the tasks it spawned
armed after the others. -/
def call {α : Type} (c : Timers) (p : Act α) : Timers :=
  let out := p.poll c.now turnLength c.world
  { c with world := out.world, tasks := c.tasks ++ out.spawned }

/-- One move. A call runs the coordinator's process for it; a turn runs the `i`th timer task
and leaves what remains of it in its place; the clock never goes back. -/
def step (ceiling : Span) (c : Timers) : TimersMove → Timers
  | .call (.revoke _) => c.call (Act.revoke ceiling)
  | .call (.assign ps) => c.call (Act.assign ps)
  | .call (.failed _) => c.call (pure () : Act Unit)
  | .call .shutdown => c.call Act.disarmTimer
  | .call .cancelScope => c.call (do Act.cancel (← Proc.gets (·.scope)))
  | .turn i =>
    match c.tasks[i]? with
    | some p =>
      let out := p.poll c.now turnLength c.world
      { c with world := out.world, tasks := c.tasks.set i out.rest ++ out.spawned }
    | none => c
  | .tick t => { c with now := max c.now t }

/-- The state a revoke that starts a rebalance leaves: the backoff as grown, a new token below
the scope in the slot, the token of the timer it replaces cancelled, and a timer armed for
`delay` under the new token. -/
def arm (c : Timers) (b : Backoff) (delay : Span) : Timers :=
  { c with
    world := { c.world with backoff := b, tokens := c.world.armedTokens,
                            coordinator := c.world.coordinator.startRebalance
                              c.world.tokens.nodes.size },
    tasks := c.tasks ++ [Act.rebalanceTimer c.world.tokens.nodes.size delay] }

@[simp] theorem tasks_arm (c : Timers) (b : Backoff) (delay : Span) :
    (c.arm b delay).tasks = c.tasks ++ [Act.rebalanceTimer c.world.tokens.nodes.size delay] := rfl

@[simp] theorem world_arm (c : Timers) (b : Backoff) (delay : Span) :
    (c.arm b delay).world =
      { c.world with backoff := b, tokens := c.world.armedTokens,
                     coordinator := c.world.coordinator.startRebalance c.world.tokens.nodes.size } :=
  rfl

/-- The state after the moves `ms`, in order. -/
def run (ceiling : Span) (c : Timers) (ms : List TimersMove) : Timers :=
  ms.foldl (step ceiling) c

@[simp] theorem run_nil (ceiling : Span) (c : Timers) : c.run ceiling [] = c := rfl

theorem run_append_singleton (ceiling : Span) (c : Timers) (ms : List TimersMove)
    (m : TimersMove) : c.run ceiling (ms ++ [m]) = (c.run ceiling ms).step ceiling m := by
  simp [run]

/-- The `i`th task is a timer that takes its expiry on a tie: its token is cancelled, but its
deadline has passed as well and the world gives such a tie to the expiry. -/
def ExpiresOnTie (c : Timers) (i : Nat) : Prop :=
  ∃ k p, c.tasks[i]? = some p ∧ c.world.isCancelled k = true ∧ TimerDue k c.now p ∧
    c.world.expiryWinsTie k = true

/-! ## What each move does -/

open Proc

variable {ceiling : Span} {c : Timers}

/-- A revoke while a rebalance is in flight changes nothing. -/
theorem step_revoke_rebalancing {ps : List Partition}
    (h : c.world.coordinator.isRebalancing = true) :
    c.step ceiling (.call (.revoke ps)) = c := by
  simp [step, call, poll, turnLength, Act.revoke, Proc.get, Proc.bind, h]

/-- A revoke whose backoff increase panics changes nothing. -/
theorem step_revoke_halt {ps : List Partition} {e : Halt}
    (h : c.world.coordinator.isRebalancing = false) (hb : c.world.backoff.increase = .error e) :
    c.step ceiling (.call (.revoke ps)) = c := by
  simp [step, call, poll, turnLength, Act.revoke, Proc.get, Proc.bind, h, hb]

/-- A revoke while stable grows the backoff once, starts a rebalance guarded by a new token
below the scope, cancels the token of the timer it replaces, and arms a timer for the new
delay, at most the ceiling. -/
theorem step_revoke_start {ps : List Partition} {d : Span} {b : Backoff}
    (h : c.world.coordinator.isRebalancing = false) (hb : c.world.backoff.increase = .ok (d, b)) :
    c.step ceiling (.call (.revoke ps)) = c.arm b (min d ceiling) := by
  simp only [step, call, poll, turnLength, Act.revoke, Proc.get, Proc.set, Proc.fork, bind_eq,
    Proc.bind, pollFrom_look, pollFrom_put, pollFrom_pure, pollFrom_spawn, h, hb,
    Bool.false_eq_true, if_false, pure_eq, Tokens.child_fst,
    List.reverse_singleton]
  rfl

/-- An assignment replaces the assignment, disarms the timer and makes the coordinator
stable. -/
theorem step_assign (ps : List Partition) :
    c.step ceiling (.call (.assign ps)) =
      { c with world := { c.world with tokens := c.world.disarmedTokens,
                                       coordinator := c.world.coordinator.assign ps } } := by
  simp only [step, call, poll, turnLength, Act.assign, Act.disarmTimer, Proc.modify, bind_eq,
    Proc.bind, pollFrom_look, pollFrom_put, pollFrom_pure, List.reverse_nil, List.append_nil,
    World.disarmedTokens]
  cases c.world.coordinator.timer <;> simp [Coordinator.assign, Coordinator.disarm]

/-- A reported error changes nothing. -/
theorem step_failed (e : Fault) : c.step ceiling (.call (.failed e)) = c := by
  simp [step, call]

/-- A shutdown disarms the timer. -/
theorem step_shutdown :
    c.step ceiling (.call .shutdown) =
      { c with world := { c.world with tokens := c.world.disarmedTokens,
                                       coordinator := c.world.coordinator.disarm } } := by
  simp only [step, call, poll, turnLength, Act.disarmTimer, Proc.modify, pollFrom_look,
    pollFrom_put, pollFrom_pure, List.reverse_nil, List.append_nil, World.disarmedTokens]
  cases h : c.world.coordinator.timer
  · have hc : c.world.coordinator.disarm = c.world.coordinator := by
      cases hw : c.world.coordinator
      simp_all [Coordinator.disarm]
    simp [hc]
  · rfl

/-- Cancelling the scope cancels it and every token below it. -/
theorem step_cancelScope :
    c.step ceiling (.call .cancelScope) =
      { c with world := { c.world with tokens := c.world.tokens.cancel c.world.scope } } := by
  simp [step, call, poll, turnLength, Act.cancel, Proc.gets, Proc.modify, Proc.bind]

theorem step_tick (t : Nat) : c.step ceiling (.tick t) = { c with now := max c.now t } := rfl

/-- A turn of a task that does not exist changes nothing. -/
theorem step_turn_none {i : Nat} (h : c.tasks[i]? = none) : c.step ceiling (.turn i) = c := by
  simp [step, h]

/-- A turn of a timer: what `poll_timer` says of its poll, in place in the tasks. -/
theorem step_turn_timer {i k : Nat} {p : Act Unit} (h : c.tasks[i]? = some p)
    (hp : TimerState k p) :
    ((c.world.isCancelled k = true ∨ p = .pure ()) ∧
      c.step ceiling (.turn i) = { c with tasks := c.tasks.set i (.pure ()) }) ∨
    (∃ q, TimerPending k p ∧ TimerPending k q ∧
      c.step ceiling (.turn i) = { c with tasks := c.tasks.set i q }) ∨
    (TimerPending k p ∧
      (c.world.isCancelled k = false ∨ (TimerDue k c.now p ∧ c.world.expiryWinsTie k = true)) ∧
      c.step ceiling (.turn i) =
        { c with world := { c.world with coordinator := c.world.coordinator.expire },
                 tasks := c.tasks.set i (.pure ()) }) := by
  rcases poll_timer (t := c.now) (w := c.world) hp with ⟨hq, hpoll⟩ | ⟨q, hpp, hq, hpoll⟩ |
    ⟨hpp, hq, hpoll⟩
  · exact .inl ⟨hq, by simp [step, h, hpoll]⟩
  · exact .inr (.inl ⟨q, hpp, hq, by simp [step, h, hpoll]⟩)
  · exact .inr (.inr ⟨hpp, hq, by simp [step, h, hpoll]⟩)

end Timers

end BrokerSession
