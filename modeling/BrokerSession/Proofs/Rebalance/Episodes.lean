import BrokerSession.Proofs.Rebalance.Timers
import Mathlib.Data.List.Induction

/-!
# Rebalance episodes

What every run of a coordinator and its timers keeps. A rebalance episode starts with the
revoke that finds the coordinator stable. That revoke grows the backoff once and arms a timer
under a new token, cancelling the token of the timer armed before it. The episode ends with an
assignment, with that timer running out, or with an older timer that runs out after all: every
older timer's token was cancelled when its successor was armed, or by an assignment or a
shutdown, but a timer whose deadline has passed by the time it runs finds both branches of its
select ready, and the expiry may win.

The proofs go through one invariant, `Timers.Good`, stated of a state together with the tokens
of its timer tasks. It holds of a fresh coordinator and every move keeps it. What a move can do
to a good state is said once (`Timers.Good.step_cases`), and the theorems about whole runs
follow from it by induction on the moves.
-/

namespace BrokerSession

/-! ## Lists of tasks -/

section Lists

variable {α : Type _} {l : List α} {a b : α} {i j : Nat}

private theorem getElem?_concat_some (h : (l ++ [a])[i]? = some b) :
    (i < l.length ∧ l[i]? = some b) ∨ (i = l.length ∧ b = a) := by
  rw [List.getElem?_append] at h
  split at h
  · exact .inl ⟨‹_›, h⟩
  · rename_i hi
    cases hj : i - l.length with
    | zero =>
      rw [hj, List.getElem?_cons_zero, Option.some.injEq] at h
      exact .inr ⟨by omega, h.symm⟩
    | succ n => simp [hj] at h

private theorem getElem?_set_some (h : (l.set i a)[j]? = some b) :
    (i = j ∧ b = a) ∨ (i ≠ j ∧ l[j]? = some b) := by
  rw [List.getElem?_set] at h
  by_cases hij : i = j
  · rw [if_pos hij] at h
    split at h
    · exact .inl ⟨hij, (Option.some.inj h).symm⟩
    · cases h
  · exact .inr ⟨hij, by rwa [if_neg hij] at h⟩

private theorem getLast?_set :
    (l.set i a).getLast? = if i + 1 = l.length then some a else l.getLast? := by
  rw [List.getLast?_eq_getElem?, List.getLast?_eq_getElem?, List.length_set, List.getElem?_set]
  by_cases hi : i + 1 = l.length
  · rw [if_pos (by omega), if_pos (by omega), if_pos hi]
  · rw [if_neg hi]
    by_cases he : i = l.length - 1
    · rw [if_pos he, if_neg (by omega), List.getElem?_eq_none (by omega)]
    · rw [if_neg he]

private theorem getLast?_of_getElem? (h : l[i]? = some a) (hi : i + 1 = l.length) :
    l.getLast? = some a := by
  rw [List.getLast?_eq_getElem?, show l.length - 1 = i by omega, h]

end Lists

/-! ## The last assignment -/

namespace TimersMove

/-- The assignment after a move: the partitions of an assignment, the old one after any other
move. -/
def assigned : TimersMove → List Partition → List Partition
  | .call (.assign ps), _ => ps
  | _, ps => ps

theorem assigned_of_ne {m : TimersMove} (h : ∀ ps, m ≠ .call (.assign ps)) (a : List Partition) :
    m.assigned a = a := by
  cases m with
  | call e =>
    cases e with
    | assign ps => exact absurd rfl (h ps)
    | _ => rfl
  | _ => rfl

/-- The partitions of the last assignment among the moves, none before any. -/
def lastAssigned (ms : List TimersMove) : List Partition :=
  ms.foldl (fun ps m => m.assigned ps) []

end TimersMove

namespace Timers

variable {ceiling : Span} {c : Timers} {ks : List Nat}

/-! ## The invariant -/

/-- The invariant of a coordinator and its timer tasks (`ks`, their tokens, oldest first): each task
is its token's timer, every token a child of the scope, only the newest timer armed, and a rebalance
in flight has a pending timer unless the scope is cancelled. -/
structure Good (c : Timers) (ks : List Nat) : Prop where
  length : ks.length = c.tasks.length
  state : ∀ (i k : Nat) (p : Act Unit), ks[i]? = some k → c.tasks[i]? = some p → TimerState k p
  scope_lt : c.world.scope < c.world.tokens.nodes.size
  token : ∀ k ∈ ks, k < c.world.tokens.nodes.size ∧
    c.world.tokens.parentOf k = some c.world.scope ∧ c.world.scope < k
  quiet : ∀ (i k : Nat) (p : Act Unit), ks[i]? = some k → c.tasks[i]? = some p →
    c.world.isCancelled k = true ∨ p = .pure () ∨
      (i + 1 = ks.length ∧ c.world.coordinator.timer = some k)
  slot : ∀ k, c.world.coordinator.timer = some k → ks.getLast? = some k
  pending : c.world.coordinator.phase = .rebalancing → ∀ k, c.world.coordinator.timer = some k →
    c.world.isCancelled k = false → ∃ p, c.tasks.getLast? = some p ∧ TimerPending k p
  cancelled_scope : c.world.coordinator.phase = .rebalancing → ∀ k, c.world.coordinator.timer = some k →
    c.world.isCancelled k = true → c.world.scopeCancelled = true

theorem good_fresh (topic : String) (s : BackoffSettings) (t : Nat) (ties : Nat → Bool) :
    (fresh topic s t ties).Good [] where
  length := rfl
  state i k p hk := by simp at hk
  scope_lt := by simp [fresh, World.fresh, Tokens.fresh]
  token k hk := by simp at hk
  quiet i k p hk := by simp at hk
  slot k hk := by simp [fresh, World.fresh] at hk
  pending hr := by simp [fresh, World.fresh] at hr
  cancelled_scope hr := by simp [fresh, World.fresh] at hr

namespace Good

variable (hg : c.Good ks)
include hg

/-- The invariant reads only the world and the tasks. -/
theorem of_eq {c' : Timers} (hw : c'.world = c.world) (ht : c'.tasks = c.tasks) : c'.Good ks := by
  obtain ⟨h₁, h₂, h₃, h₄, h₅, h₆, h₇, h₈⟩ := hg
  constructor <;> simp only [hw, ht] <;> assumption

theorem token_of_task {i : Nat} {p : Act Unit} (hp : c.tasks[i]? = some p) :
    ∃ k, ks[i]? = some k := by
  have hi : i < ks.length := hg.length ▸ (List.getElem?_eq_some_iff.1 hp).1
  exact ⟨ks[i], List.getElem?_eq_getElem hi⟩

/-- The armed timer's token is the newest, a child of the scope. -/
theorem slot_token {k : Nat} (hk : c.world.coordinator.timer = some k) :
    k < c.world.tokens.nodes.size ∧ c.world.scope < k := by
  obtain ⟨hlt, -, hsc⟩ := hg.token k (List.mem_of_getLast? (hg.slot k hk))
  exact ⟨hlt, hsc⟩

/-- The newest task's token is the one in the slot, if any. -/
theorem slot_eq {i k k' : Nat} (hk : ks[i]? = some k) (hi : i + 1 = c.tasks.length)
    (hk' : c.world.coordinator.timer = some k') : k = k' := by
  have hlast := getLast?_of_getElem? hk (hi.trans hg.length.symm)
  rw [hg.slot k' hk', Option.some.injEq] at hlast
  exact hlast.symm

/-! ## Each move keeps it -/

/-- Arming a timer under a new token: the new task is the newest and its token is in the
slot; the token it replaces is cancelled. -/
theorem arm {d : Span} {b : Backoff} :
    (c.arm b d).Good (ks ++ [c.world.tokens.nodes.size]) where
  length := by simp [hg.length]
  state i k p hk hp := by
    rw [tasks_arm] at hp
    rcases getElem?_concat_some hk with ⟨hi, hk⟩ | ⟨rfl, rfl⟩
    · rw [List.getElem?_append_left (hg.length ▸ hi)] at hp
      exact hg.state i k p hk hp
    · rw [hg.length, List.getElem?_concat_length, Option.some.injEq] at hp
      subst hp
      exact (TimerPending.armed d).state
  scope_lt := by
    have := hg.scope_lt
    simp only [world_arm, World.size_armedTokens]
    omega
  token k hk := by
    rcases List.mem_append.1 hk with hk | hk
    · obtain ⟨hlt, hpar, hsc⟩ := hg.token k hk
      refine ⟨by simp only [world_arm, World.size_armedTokens]; omega, ?_, hsc⟩
      simp [Tokens.parentOf_child, Nat.ne_of_lt hlt, hpar]
    · rw [List.mem_singleton] at hk
      subst hk
      exact ⟨by simp, by simp [Tokens.parentOf_child], hg.scope_lt⟩
  quiet i k p hk hp := by
    rw [tasks_arm] at hp
    rcases getElem?_concat_some hk with ⟨hi, hk⟩ | ⟨rfl, rfl⟩
    · rw [List.getElem?_append_left (hg.length ▸ hi)] at hp
      rcases hg.quiet i k p hk hp with hc | hd | ⟨-, hslot⟩
      · exact .inl (World.isCancelled_armedTokens_of hc)
      · exact .inr (.inl hd)
      · exact .inl (World.isCancelled_armedTokens_timer hslot (hg.slot_token hslot).1)
    · exact .inr (.inr ⟨by simp, rfl⟩)
  slot k hk := by
    simp only [world_arm, Coordinator.startRebalance, Option.some.injEq] at hk
    subst hk
    exact List.getLast?_concat
  pending _ k hk _ := by
    simp only [world_arm, Coordinator.startRebalance, Option.some.injEq] at hk
    subst hk
    exact ⟨_, List.getLast?_concat, .armed d⟩
  cancelled_scope _ k hk hcan := by
    simp only [world_arm, Coordinator.startRebalance, Option.some.injEq] at hk
    subst hk
    -- the new token starts cancelled only when the scope already was
    have hscope : c.world.tokens.isCancelled c.world.scope = true := by
      rw [← World.isCancelled_armedTokens_new fun old h => hg.slot_token h]
      exact hcan
    exact World.isCancelled_armedTokens_of hscope

/-- Disarming: the armed timer's token is cancelled and the slot emptied, whatever else the
coordinator becomes. -/
theorem disarm {co : Coordinator} (hco : co.timer = none) :
    Good { c with world := { c.world with tokens := c.world.disarmedTokens, coordinator := co } }
      ks where
  length := hg.length
  state := hg.state
  scope_lt := by simpa using hg.scope_lt
  token k hk := by simpa using hg.token k hk
  quiet i k p hk hp := by
    rcases hg.quiet i k p hk hp with hc | hd | ⟨-, hslot⟩
    · exact .inl (World.isCancelled_disarmedTokens_of hc)
    · exact .inr (.inl hd)
    · exact .inl (World.isCancelled_disarmedTokens_timer hslot (hg.slot_token hslot).1)
  slot k hk := by simp [hco] at hk
  pending _ k hk := by simp [hco] at hk
  cancelled_scope _ k hk := by simp [hco] at hk

/-- Cancelling the scope cancels every timer's token and leaves the rest as it was. -/
theorem cancelScope :
    Good { c with world := { c.world with tokens := c.world.tokens.cancel c.world.scope } } ks where
  length := hg.length
  state := hg.state
  scope_lt := by simpa using hg.scope_lt
  token k hk := by simpa using hg.token k hk
  quiet i k p hk hp := by
    rcases hg.quiet i k p hk hp with hc | hrest
    · exact .inl (Tokens.isCancelled_cancel_of hc)
    · exact .inr hrest
  slot := hg.slot
  pending hr k hk hcan := by
    refine hg.pending hr k hk (Bool.eq_false_iff.2 fun h => ?_)
    exact nomatch (Tokens.isCancelled_cancel_of (j := c.world.scope) h).symm.trans hcan
  cancelled_scope _ _ _ _ := Tokens.isCancelled_cancel_self hg.scope_lt

/-- A timer task ends with nothing done: its token was cancelled, or it had finished. -/
theorem retire {i k : Nat} {p : Act Unit} (hk : ks[i]? = some k) (hp : c.tasks[i]? = some p)
    (hq : c.world.isCancelled k = true ∨ p = .pure ()) :
    Good { c with tasks := c.tasks.set i (.pure ()) } ks where
  length := by simp [hg.length]
  state j k' p' hk' hp' := by
    rcases getElem?_set_some hp' with ⟨-, rfl⟩ | ⟨-, hp'⟩
    · exact timerState_done k'
    · exact hg.state j k' p' hk' hp'
  scope_lt := hg.scope_lt
  token := hg.token
  quiet j k' p' hk' hp' := by
    rcases getElem?_set_some hp' with ⟨-, rfl⟩ | ⟨-, hp'⟩
    · exact .inr (.inl rfl)
    · exact hg.quiet j k' p' hk' hp'
  slot := hg.slot
  pending hr k' hk' hcan := by
    obtain ⟨q, hlast, hq'⟩ := hg.pending hr k' hk' hcan
    simp only [getLast?_set]
    split
    · -- the task that ended would be the armed timer, pending with a live token
      rename_i hi
      obtain rfl := hg.slot_eq hk hi hk'
      have hpq : p = q := by
        rw [List.getLast?_eq_getElem?, show c.tasks.length - 1 = i by omega, hp] at hlast
        exact Option.some.inj hlast
      subst hpq
      rcases hq with hc | hd
      · rw [hc] at hcan; cases hcan
      · exact absurd hd hq'.ne_pure
    · exact ⟨q, hlast, hq'⟩
  cancelled_scope := hg.cancelled_scope

/-- A pending timer that stays pending. -/
theorem park {i k : Nat} {p q : Act Unit} (hk : ks[i]? = some k) (hp : c.tasks[i]? = some p)
    (hpp : TimerPending k p) (hq : TimerPending k q) :
    Good { c with tasks := c.tasks.set i q } ks where
  length := by simp [hg.length]
  state j k' p' hk' hp' := by
    rcases getElem?_set_some hp' with ⟨rfl, rfl⟩ | ⟨-, hp'⟩
    · rw [hk, Option.some.injEq] at hk'
      exact hk' ▸ hq.state
    · exact hg.state j k' p' hk' hp'
  scope_lt := hg.scope_lt
  token := hg.token
  quiet j k' p' hk' hp' := by
    rcases getElem?_set_some hp' with ⟨rfl, rfl⟩ | ⟨-, hp'⟩
    · rw [hk, Option.some.injEq] at hk'
      subst hk'
      rcases hg.quiet i k p hk hp with hc | hd | hlast
      · exact .inl hc
      · exact absurd hd hpp.ne_pure
      · exact .inr (.inr hlast)
    · exact hg.quiet j k' p' hk' hp'
  slot := hg.slot
  pending hr k' hk' hcan := by
    obtain ⟨r, hlast, hr'⟩ := hg.pending hr k' hk' hcan
    simp only [getLast?_set]
    split
    · rename_i hi
      exact ⟨q, rfl, hg.slot_eq hk hi hk' ▸ hq⟩
    · exact ⟨r, hlast, hr'⟩
  cancelled_scope := hg.cancelled_scope

/-- A live timer that ran out: the task is done and the coordinator stable. -/
theorem expire {i : Nat} :
    Good { c with world := { c.world with coordinator := c.world.coordinator.expire },
                  tasks := c.tasks.set i (.pure ()) } ks where
  length := by simp [hg.length]
  state j k' p' hk' hp' := by
    rcases getElem?_set_some hp' with ⟨-, rfl⟩ | ⟨-, hp'⟩
    · exact timerState_done k'
    · exact hg.state j k' p' hk' hp'
  scope_lt := hg.scope_lt
  token := hg.token
  quiet j k' p' hk' hp' := by
    rcases getElem?_set_some hp' with ⟨-, rfl⟩ | ⟨-, hp'⟩
    · exact .inr (.inl rfl)
    · rcases hg.quiet j k' p' hk' hp' with hc | hd | ⟨hj, hslot⟩
      · exact .inl hc
      · exact .inr (.inl hd)
      · exact .inr (.inr ⟨hj, by simpa using hslot⟩)
  slot k hk := hg.slot k (by simpa using hk)
  pending hr := by simp at hr
  cancelled_scope hr := by simp at hr

/-! ## What a move can do -/

/-- A turn of the `i`th task does nothing, ends a cancelled or finished timer, leaves a pending
timer pending, or runs a timer out: the armed, newest one with a live token, or an older one whose
deadline passed as its token was cancelled, the tie going to the expiry. -/
theorem turn_cases (ceiling : Span) (i : Nat) :
    c.step ceiling (.turn i) = c ∨
    (∃ k p, ks[i]? = some k ∧ c.tasks[i]? = some p ∧
      (c.world.isCancelled k = true ∨ p = .pure ()) ∧
      c.step ceiling (.turn i) = { c with tasks := c.tasks.set i (.pure ()) }) ∨
    (∃ k p q, ks[i]? = some k ∧ c.tasks[i]? = some p ∧ TimerPending k p ∧ TimerPending k q ∧
      c.step ceiling (.turn i) = { c with tasks := c.tasks.set i q }) ∨
    (((i + 1 = c.tasks.length ∧
        ∃ k, c.world.coordinator.timer = some k ∧ c.world.isCancelled k = false) ∨
      c.ExpiresOnTie i) ∧
      c.step ceiling (.turn i) =
        { c with world := { c.world with coordinator := c.world.coordinator.expire },
                 tasks := c.tasks.set i (.pure ()) }) := by
  rcases Option.eq_none_or_eq_some c.tasks[i]? with hp | ⟨p, hp⟩
  · exact .inl (step_turn_none hp)
  obtain ⟨k, hk⟩ := hg.token_of_task hp
  rcases @step_turn_timer ceiling c i k p hp (hg.state i k p hk hp) with ⟨hq, h⟩ |
    ⟨q, hpp, hq, h⟩ | ⟨hpp, hx, h⟩
  · exact .inr (.inl ⟨k, p, hk, hp, hq, h⟩)
  · exact .inr (.inr (.inl ⟨k, p, q, hk, hp, hpp, hq, h⟩))
  · -- the timer ran out: with a live token it is the armed one, the newest; with a cancelled
    -- one, its deadline had passed and the expiry won the tie
    refine .inr (.inr (.inr ⟨?_, h⟩))
    cases hc : c.world.isCancelled k
    · rcases hg.quiet i k p hk hp with hc' | hd | ⟨hi, hslot⟩
      · rw [hc] at hc'
        cases hc'
      · exact absurd hd hpp.ne_pure
      · exact .inl ⟨hi.trans hg.length, ⟨k, hslot, hc⟩⟩
    · rcases hx with hx | ⟨hdue, hwin⟩
      · rw [hc] at hx
        cases hx
      · exact .inr ⟨k, p, hp, hc, hdue, hwin⟩

theorem turn (ceiling : Span) (i : Nat) : (c.step ceiling (.turn i)).Good ks := by
  rcases hg.turn_cases ceiling i with
    h | ⟨k, p, hk, hp, hq, h⟩ | ⟨k, p, q, hk, hp, hpp, hq, h⟩ | ⟨-, h⟩
  · rw [h]; exact hg
  · rw [h]; exact hg.retire hk hp hq
  · rw [h]; exact hg.park hk hp hpp hq
  · rw [h]; exact hg.expire

theorem step (ceiling : Span) (m : TimersMove) : ∃ ks', (c.step ceiling m).Good ks' := by
  cases m with
  | call e =>
    cases e with
    | revoke ps =>
      cases hr : c.world.coordinator.isRebalancing
      · cases hb : c.world.backoff.increase with
        | error e => exact ⟨ks, by rw [step_revoke_halt hr hb]; exact hg⟩
        | ok r =>
          obtain ⟨d, b⟩ := r
          exact ⟨_, by rw [step_revoke_start hr hb]; exact hg.arm⟩
      · exact ⟨ks, by rw [step_revoke_rebalancing hr]; exact hg⟩
    | assign ps => exact ⟨ks, by rw [step_assign]; exact hg.disarm rfl⟩
    | failed e => exact ⟨ks, by rw [step_failed]; exact hg⟩
    | shutdown => exact ⟨ks, by rw [step_shutdown]; exact hg.disarm rfl⟩
    | cancelScope => exact ⟨ks, by rw [step_cancelScope]; exact hg.cancelScope⟩
  | turn i => exact ⟨ks, hg.turn ceiling i⟩
  | tick t => exact ⟨ks, hg.of_eq rfl rfl⟩

/-- Every state a run reaches from a good one is good. -/
theorem run (ceiling : Span) (ms : List TimersMove) : ∃ ks', (c.run ceiling ms).Good ks' := by
  induction ms generalizing c ks with
  | nil => exact ⟨ks, hg⟩
  | cons m ms ih =>
    obtain ⟨ks', hg'⟩ := hg.step ceiling m
    exact ih hg'

/-- What a move does to a good state's world and to its number of tasks. Arming a timer is
the one move that adds a task. Otherwise the world stays, or an assignment, a shutdown or the
scope's cancellation changes it as its call does, or the armed timer runs out. -/
theorem step_cases (ceiling : Span) (m : TimersMove) :
    (∃ ps d b, m = .call (.revoke ps) ∧ c.world.coordinator.phase = .stable ∧
      c.world.backoff.increase = .ok (d, b) ∧ c.step ceiling m = c.arm b (min d ceiling)) ∨
    ((c.step ceiling m).tasks.length = c.tasks.length ∧
      (((∀ ps, m ≠ .call (.assign ps)) ∧ (c.step ceiling m).world = c.world) ∨
        (∃ ps, m = .call (.assign ps) ∧ (c.step ceiling m).world =
          { c.world with tokens := c.world.disarmedTokens,
                         coordinator := c.world.coordinator.assign ps }) ∨
        (m = .call .shutdown ∧ (c.step ceiling m).world =
          { c.world with tokens := c.world.disarmedTokens,
                         coordinator := c.world.coordinator.disarm }) ∨
        (m = .call .cancelScope ∧ (c.step ceiling m).world =
          { c.world with tokens := c.world.tokens.cancel c.world.scope }) ∨
        (∃ i, m = .turn i ∧
          ((i + 1 = c.tasks.length ∧
            ∃ k, c.world.coordinator.timer = some k ∧ c.world.isCancelled k = false) ∨
            c.ExpiresOnTie i) ∧
          (c.step ceiling m).world =
            { c.world with coordinator := c.world.coordinator.expire }))) := by
  cases m with
  | call e =>
    cases e with
    | revoke ps =>
      cases hr : c.world.coordinator.isRebalancing
      · cases hb : c.world.backoff.increase with
        | error e =>
          rw [step_revoke_halt hr hb]
          exact .inr ⟨rfl, .inl ⟨(fun _ h => nomatch h), rfl⟩⟩
        | ok r =>
          obtain ⟨d, b⟩ := r
          exact .inl ⟨ps, d, b, rfl, Coordinator.isRebalancing_eq_false.1 hr, rfl,
            step_revoke_start hr hb⟩
      · rw [step_revoke_rebalancing hr]
        exact .inr ⟨rfl, .inl ⟨(fun _ h => nomatch h), rfl⟩⟩
    | assign ps =>
      rw [step_assign]
      exact .inr ⟨rfl, .inr (.inl ⟨ps, rfl, rfl⟩)⟩
    | failed e =>
      rw [step_failed]
      exact .inr ⟨rfl, .inl ⟨(fun _ h => nomatch h), rfl⟩⟩
    | shutdown =>
      rw [step_shutdown]
      exact .inr ⟨rfl, .inr (.inr (.inl ⟨rfl, rfl⟩))⟩
    | cancelScope =>
      rw [step_cancelScope]
      exact .inr ⟨rfl, .inr (.inr (.inr (.inl ⟨rfl, rfl⟩)))⟩
  | turn i =>
    have hne : ∀ ps, TimersMove.turn i ≠ .call (.assign ps) := fun _ h => nomatch h
    rcases hg.turn_cases ceiling i with
      h | ⟨_, _, -, -, -, h⟩ | ⟨_, _, _, -, -, -, -, h⟩ | ⟨hi, h⟩
    · rw [h]
      exact .inr ⟨rfl, .inl ⟨hne, rfl⟩⟩
    · rw [h]
      exact .inr ⟨List.length_set .., .inl ⟨hne, rfl⟩⟩
    · rw [h]
      exact .inr ⟨List.length_set .., .inl ⟨hne, rfl⟩⟩
    · rw [h]
      exact .inr ⟨List.length_set .., .inr (.inr (.inr (.inr ⟨i, rfl, hi, rfl⟩)))⟩
  | tick t => exact .inr ⟨rfl, .inl ⟨(fun _ h => nomatch h), rfl⟩⟩

/-! ## Starting and ending a rebalance -/

/-- Only a revoke whose backoff grows starts a rebalance, and it arms a timer for the grown
delay, at most the ceiling. -/
theorem starts_rebalance {m : TimersMove} (hs : c.world.coordinator.phase = .stable)
    (hr : (c.step ceiling m).world.coordinator.phase = .rebalancing) :
    ∃ ps d b, m = .call (.revoke ps) ∧ c.world.backoff.increase = .ok (d, b) ∧
      c.step ceiling m = c.arm b (min d ceiling) := by
  rcases hg.step_cases ceiling m with ⟨ps, d, b, hm, -, hb, h⟩ | ⟨-, hw⟩
  · exact ⟨ps, d, b, hm, hb, h⟩
  · -- every other move leaves a stable coordinator stable
    exfalso
    rcases hw with ⟨-, hw⟩ | ⟨ps, -, hw⟩ | ⟨-, hw⟩ | ⟨-, hw⟩ | ⟨i, -, -, hw⟩ <;>
      simp [hw, hs, Coordinator.assign, Coordinator.disarm] at hr

/-- Only an assignment, a turn of the newest timer, or a turn of a timer that expires on a
tie, ends a rebalance. -/
theorem ends_rebalance {m : TimersMove} (hr : c.world.coordinator.phase = .rebalancing)
    (hs : (c.step ceiling m).world.coordinator.phase = .stable) :
    (∃ ps, m = .call (.assign ps)) ∨
      ∃ i, m = .turn i ∧ (i + 1 = c.tasks.length ∨ c.ExpiresOnTie i) := by
  rcases hg.step_cases ceiling m with ⟨_, _, _, -, hs', -⟩ | ⟨-, hw⟩
  · rw [hr] at hs'
    cases hs'
  · rcases hw with ⟨-, hw⟩ | ⟨ps, hm, -⟩ | ⟨-, hw⟩ | ⟨-, hw⟩ | ⟨i, hm, ⟨hi, -⟩ | hi, -⟩
    · simp [hw, hr] at hs
    · exact .inl ⟨ps, hm⟩
    · simp [hw, hr, Coordinator.disarm] at hs
    · simp [hw, hr] at hs
    · exact .inr ⟨i, hm, .inl hi⟩
    · exact .inr ⟨i, hm, .inr hi⟩

/-- No task is added while a rebalance is in flight. -/
theorem length_step_of_rebalancing (m : TimersMove)
    (hr : c.world.coordinator.phase = .rebalancing) :
    (c.step ceiling m).tasks.length = c.tasks.length := by
  rcases hg.step_cases ceiling m with ⟨_, _, _, -, hs, -⟩ | ⟨h, -⟩
  · rw [hr] at hs
    cases hs
  · exact h

/-- The backoff changes only where a rebalance starts. -/
theorem backoff_step (m : TimersMove) :
    (c.step ceiling m).world.backoff = c.world.backoff ∨
      (c.world.coordinator.phase = .stable ∧
        (c.step ceiling m).world.coordinator.phase = .rebalancing) := by
  rcases hg.step_cases ceiling m with ⟨_, _, _, -, hs, -, h⟩ | ⟨-, hw⟩
  · exact .inr ⟨hs, by rw [h]; rfl⟩
  · left
    rcases hw with ⟨-, hw⟩ | ⟨_, -, hw⟩ | ⟨-, hw⟩ | ⟨-, hw⟩ | ⟨_, -, -, hw⟩ <;> rw [hw]

theorem assignment_step (m : TimersMove) :
    (c.step ceiling m).world.coordinator.assignment = m.assigned c.world.coordinator.assignment := by
  rcases hg.step_cases ceiling m with ⟨ps, _, _, rfl, -, -, h⟩ | ⟨-, hw⟩
  · rw [h]
    rfl
  · rcases hw with ⟨hne, hw⟩ | ⟨ps, rfl, hw⟩ | ⟨rfl, hw⟩ | ⟨rfl, hw⟩ | ⟨i, rfl, -, hw⟩
    · rw [hw, TimersMove.assigned_of_ne hne]
    · rw [hw]; rfl
    · rw [hw]; rfl
    · rw [hw]; rfl
    · rw [hw]
      simp [TimersMove.assigned]

/-- No move changes how the timers' selects settle ties. -/
theorem expiryWinsTie_step (m : TimersMove) :
    (c.step ceiling m).world.expiryWinsTie = c.world.expiryWinsTie := by
  rcases hg.step_cases ceiling m with ⟨_, _, _, -, -, -, h⟩ | ⟨-, hw⟩
  · rw [h]
    rfl
  · rcases hw with ⟨-, hw⟩ | ⟨_, -, hw⟩ | ⟨-, hw⟩ | ⟨-, hw⟩ | ⟨_, -, -, hw⟩ <;> rw [hw]

/-- Short of a shutdown, a rebalance in flight keeps a token in the slot. -/
theorem armed_step {m : TimersMove} (hm : m ≠ .call .shutdown)
    (ha : c.world.coordinator.phase = .rebalancing → c.world.coordinator.timer ≠ none)
    (hr : (c.step ceiling m).world.coordinator.phase = .rebalancing) :
    (c.step ceiling m).world.coordinator.timer ≠ none := by
  rcases hg.step_cases ceiling m with ⟨_, _, _, -, -, -, h⟩ | ⟨-, hw⟩
  · rw [h]
    simp [Coordinator.startRebalance]
  · rcases hw with ⟨-, hw⟩ | ⟨_, -, hw⟩ | ⟨rfl, -⟩ | ⟨-, hw⟩ | ⟨_, -, -, hw⟩
    · rw [hw] at hr ⊢
      exact ha hr
    · rw [hw] at hr
      simp [Coordinator.assign] at hr
    · exact absurd rfl hm
    · rw [hw] at hr ⊢
      exact ha hr
    · rw [hw] at hr
      simp at hr

/-! ## Whole runs -/

theorem assignment_run (ceiling : Span) (ms : List TimersMove) :
    (c.run ceiling ms).world.coordinator.assignment =
      ms.foldl (fun ps m => m.assigned ps) c.world.coordinator.assignment := by
  induction ms generalizing c ks with
  | nil => rfl
  | cons m ms ih =>
    obtain ⟨ks', hg'⟩ := hg.step ceiling m
    rw [List.foldl_cons, ← hg.assignment_step m]
    exact ih hg'

theorem expiryWinsTie_run (ceiling : Span) (ms : List TimersMove) :
    (c.run ceiling ms).world.expiryWinsTie = c.world.expiryWinsTie := by
  induction ms generalizing c ks with
  | nil => rfl
  | cons m ms ih =>
    obtain ⟨ks', hg'⟩ := hg.step ceiling m
    exact (ih hg').trans (hg.expiryWinsTie_step m)

theorem armed_run (ceiling : Span)
    (ha : c.world.coordinator.phase = .rebalancing → c.world.coordinator.timer ≠ none)
    (ms : List TimersMove) (hms : TimersMove.call .shutdown ∉ ms) :
    (c.run ceiling ms).world.coordinator.phase = .rebalancing →
      (c.run ceiling ms).world.coordinator.timer ≠ none := by
  induction ms generalizing c ks with
  | nil => exact ha
  | cons m ms ih =>
    obtain ⟨ks', hg'⟩ := hg.step ceiling m
    have hm : m ≠ .call .shutdown := fun h => hms (h ▸ List.mem_cons_self ..)
    exact ih hg' (fun hr => hg.armed_step hm ha hr) (fun h => hms (List.mem_cons_of_mem _ h))

end Good

theorem good_run (ceiling : Span) (topic : String) (s : BackoffSettings) (t : Nat)
    (ties : Nat → Bool) (ms : List TimersMove) :
    ∃ ks, ((fresh topic s t ties).run ceiling ms).Good ks :=
  (good_fresh topic s t ties).run ceiling ms

section Fresh

variable (ceiling : Span) (topic : String) (s : BackoffSettings) (t : Nat) (ties : Nat → Bool)

/-- Every rebalance in flight began with a revoke that found the coordinator stable, grew the
backoff and armed the newest timer; the coordinator has been rebalancing ever since. -/
theorem episode (ms : List TimersMove)
    (hr : ((fresh topic s t ties).run ceiling ms).world.coordinator.phase = .rebalancing) :
    ∃ ms₁ ps ms₂ d b, ms = ms₁ ++ .call (.revoke ps) :: ms₂ ∧
      ((fresh topic s t ties).run ceiling ms₁).world.coordinator.phase = .stable ∧
      ((fresh topic s t ties).run ceiling ms₁).world.backoff.increase = .ok (d, b) ∧
      (fresh topic s t ties).run ceiling (ms₁ ++ [.call (.revoke ps)]) =
        ((fresh topic s t ties).run ceiling ms₁).arm b (min d ceiling) ∧
      (∀ ms', ms' <+: ms₂ → ((fresh topic s t ties).run ceiling
        (ms₁ ++ .call (.revoke ps) :: ms')).world.coordinator.phase = .rebalancing) ∧
      ((fresh topic s t ties).run ceiling ms).tasks.length =
        ((fresh topic s t ties).run ceiling ms₁).tasks.length + 1 := by
  induction ms using List.reverseRecOn with
  | nil => simp [fresh, World.fresh] at hr
  | append_singleton ms m ih =>
    rw [run_append_singleton] at hr
    obtain ⟨ks, hg⟩ := good_run ceiling topic s t ties ms
    cases hph : ((fresh topic s t ties).run ceiling ms).world.coordinator.phase with
    | stable =>
      -- this move began the episode
      obtain ⟨ps, d, b, rfl, hb, h⟩ := hg.starts_rebalance hph hr
      refine ⟨ms, ps, [], d, b, rfl, hph, hb, by rw [run_append_singleton, h], ?_, ?_⟩
      · intro ms' hpre
        rw [List.prefix_nil.1 hpre, run_append_singleton]
        exact hr
      · rw [run_append_singleton, h]
        simp
    | rebalancing =>
      obtain ⟨ms₁, ps, ms₂, d, b, rfl, h₁, hb, h₂, h₃, h₄⟩ := ih hph
      refine ⟨ms₁, ps, ms₂ ++ [m], d, b, by simp, h₁, hb, h₂, ?_, ?_⟩
      · intro ms' hpre
        rcases List.prefix_concat_iff.1 hpre with rfl | hpre
        · have hms : ms₁ ++ .call (.revoke ps) :: (ms₂ ++ [m]) =
              (ms₁ ++ .call (.revoke ps) :: ms₂) ++ [m] := by simp
          rw [hms, run_append_singleton]
          exact hr
        · exact h₃ ms' hpre
      · rw [run_append_singleton, hg.length_step_of_rebalancing m hph, h₄]

/-! ## Episodes, from the coordinator's creation -/

/-- The assignment is the last one assigned; the backoff grows exactly where a rebalance starts, by
the revoke that arms its timer for the grown delay, capped by the ceiling; and short of a shutdown
or a cancelled scope a rebalance in flight has a live, newest, pending timer in the slot. -/
theorem assignment_backoff_and_pending_timer (ms : List TimersMove) :
    let c := (fresh topic s t ties).run ceiling ms
    c.world.coordinator.assignment = TimersMove.lastAssigned ms ∧
    (∀ m, c.world.coordinator.phase = .stable →
      (c.step ceiling m).world.coordinator.phase = .rebalancing →
      ∃ ps d b, m = .call (.revoke ps) ∧ c.world.backoff.increase = .ok (d, b) ∧
        (c.step ceiling m).world.backoff = b ∧
        (c.step ceiling m).world.coordinator.timer = some c.world.tokens.nodes.size ∧
        (c.step ceiling m).tasks =
          c.tasks ++ [Act.rebalanceTimer c.world.tokens.nodes.size (min d ceiling)]) ∧
    (∀ m, (c.step ceiling m).world.backoff = c.world.backoff ∨
      (c.world.coordinator.phase = .stable ∧
        (c.step ceiling m).world.coordinator.phase = .rebalancing)) ∧
    (TimersMove.call .shutdown ∉ ms → c.world.scopeCancelled = false →
      c.world.coordinator.phase = .rebalancing →
      ∃ k p, c.world.coordinator.timer = some k ∧ c.world.isCancelled k = false ∧
        c.tasks.getLast? = some p ∧ TimerPending k p) := by
  dsimp only
  obtain ⟨ks, hg⟩ := good_run ceiling topic s t ties ms
  refine ⟨(good_fresh topic s t ties).assignment_run ceiling ms, fun m hs hr => ?_,
    hg.backoff_step, fun hms hsc hr => ?_⟩
  · obtain ⟨ps, d, b, hm, hb, h⟩ := hg.starts_rebalance hs hr
    exact ⟨ps, d, b, hm, hb, by rw [h]; rfl, by rw [h]; rfl, by rw [h]; rfl⟩
  · -- a token is in the slot, and it is live: only the scope's cancellation cancels it
    have hslot := (good_fresh topic s t ties).armed_run ceiling
      (fun h => by simp [fresh, World.fresh] at h) ms hms hr
    obtain ⟨k, hk⟩ := Option.ne_none_iff_exists'.1 hslot
    cases hc : ((fresh topic s t ties).run ceiling ms).world.isCancelled k
    · obtain ⟨p, hp, hpp⟩ := hg.pending hr k hk hc
      exact ⟨k, p, hk, hc, hp, hpp⟩
    · rw [hg.cancelled_scope hr k hk hc] at hsc
      cases hsc

end Fresh

end Timers

end BrokerSession
