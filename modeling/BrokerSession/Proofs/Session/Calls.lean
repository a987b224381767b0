import BrokerSession.Proofs.Proc.Until
import BrokerSession.Proofs.Retry.Run
import BrokerSession.Proofs.Session.Precheck
import BrokerSession.Proofs.Session.Untouched

/-!
# Where a checked action is called

Every consumer action goes through the retry executor with the session's pre-check: a round
finds the session open, runs the pre-check, and calls the action where the pre-check passed.
The action here is the one that counts its calls in the world's `calls` (`Act.answering`); it
stands for any action, since where an action begins is decided by the rounds and not by what
the action does. The environment may do anything but call the action or record a wrong state
(`Keeping World.callView`): rebalances begin and end, the scope is cancelled, the connection
drops, the clock moves.

The pre-check waits for a stable coordinator (or the ceiling, or a cancelled scope), and then,
with wrong states recorded, pauses one second for each before it judges the client, without
looking at the coordinator again. So a call of the action begins where the coordinator is
stable, the scope cancelled, the rebalance ceiling passed since its round began, or where its
round began with a wrong state recorded (`checked_call_begins_stable_unless_paused`). The last
case is no formality: a rebalance that begins during the pause is not waited for, and the call
then begins in the middle of it (`checked_call_begins_stable_unless_paused_rebalancing`).

A run is taken apart round by round. Before the pre-check has passed nothing calls the action
(`retryRound_call_after_check`); once the action has been called, the round keeps the count of
calls until it hands over to the next round (`attempt_call_or_next_round`). So the `j`th call
of a run is the own call of the run's round `j`.
-/

namespace BrokerSession

open Proc

/-- What the environment of a checked run leaves alone: the calls of the action and the count
of wrong states. -/
def World.callView (w : World) : Nat × Nat := (w.calls, w.backoff.invalidCount)

theorem untouched_calls (v : Nat) : Untouched World.calls v where
  emit _ _ hw := hw
  subscribe _ hw := hw
  unsubscribe _ _ hw := hw
  scan _ _ _ hw := hw
  tokens _ _ hw := hw
  backoff _ _ hw _ := hw
  halted _ _ hw := hw
  connect _ hw := hw

namespace Untouched

variable {ω : Type} {f : World → ω} {v : ω} {β : Type} {kind : ActionKind} {canRetry : Bool}
  {again : Unit → Act (Except Fault (Option β))} (hf : Untouched f v)
include hf

/-! ## The end of a round keeps what the machinery keeps, until the next round -/

theorem until_retryOrFail (e : Fault) :
    KeepsUntil f v (again ()) (Act.retryOrFail kind canRetry again e) := by
  unfold Act.retryOrFail
  dsimp only
  split
  · refine hf.keeps_growBackoff.bind_until fun d => (keeps_sleepUnlessCancelled d).bind_until
      fun cancelled => ?_
    cases cancelled
    · exact .hole
    · exact .pure
  · exact (hf.keeps_resetBackoff.bind fun _ => .pure).keepsUntil _

theorem until_onFault (e : Fault) : KeepsUntil f v (again ()) (Act.onFault kind canRetry again e) := by
  unfold Act.onFault
  split
  · exact .pure
  · exact hf.keeps_growBackoff.bind_until fun _ =>
      hf.keeps_countWrongState.bind_until fun _ => hf.until_retryOrFail e
  · exact hf.until_retryOrFail e

/-- An attempt whose action keeps `f` keeps it until the next round. -/
theorem until_attempt {action : Act (Except Fault β)} (ha : Keeps f v action) :
    KeepsUntil f v (again ()) (Act.attempt kind action canRetry again) := by
  refine ha.bind_until fun r => ?_
  cases r with
  | ok a =>
    refine Keeps.keepsUntil ?_ _
    dsimp only
    split
    · exact hf.keeps_resetBackoff.bind fun _ => .pure
    · exact .pure
  | error e => exact hf.until_onFault e

end Untouched

/-! ## One round -/

section Round

variable {R : Nat × World → Nat × World → Prop} {β : Type} {kind : ActionKind} {b : Bool}
  {again : Unit → Act (Except Fault (Option β))} {t t₁ : Nat} {s s₁ s₂ : World}
  {p₁ p₂ : Act (Except Fault (Option β))}

/-- A turn that calls the action, taken in a round whose pre-check never calls it, comes after
the round found the session open and the pre-check passed. -/
theorem retryRound_call_after_check {check : Act (Except Fault Unit)}
    {action : Act (Except Fault β)} (hR : ∀ x y, R x y → x.2.calls = y.2.calls)
    (hc : Keeps World.calls s.calls check)
    (h : Runs R t s (Act.retryRound kind (some check) action b again) t₁ s₁ p₁)
    (ht : Turn t₁ s₁ p₁ s₂ p₂) (hcall : s₂.calls ≠ s₁.calls) :
    ∃ t₂ s₃, s₃.calls = s.calls ∧ Finishes R t s check t₂ s₃ (.ok ()) ∧
      Runs R t s (Act.retryRound kind (some check) action b again) t₂ s₃
        (Act.attempt kind action b again) ∧
      Runs R t₂ s₃ (Act.attempt kind action b again) t₁ s₁ p₁ := by
  unfold Act.retryRound at h ⊢
  obtain ⟨t₃, s₃, closed, hs₃, hcl, h⟩ := keeps_gets.runs_bind_turn hR rfl h ht hcall
  -- reading the closed flag takes no time
  obtain ⟨-, rfl, rfl⟩ : closed = s.closed ∧ t₃ = t ∧ s₃ = s := by
    rwa [Proc.gets, finishes_look_iff, finishes_pure_iff] at hcl
  cases closed
  · obtain ⟨t₂, s₃, r, hs₃, hchk, h⟩ := hc.runs_bind_turn hR hs₃ h ht hcall
    cases r with
    | error e =>
      -- a failed pre-check is the round's answer: nothing is left to take a turn
      obtain ⟨rfl, -, -⟩ := runs_pure_iff.1 h
      exact absurd ht Turn.not_pure
    | ok u => exact ⟨t₂, s₃, hs₃, hchk, (Runs.bind hcl _).trans (Runs.bind hchk _), h⟩
  · obtain ⟨rfl, -, -⟩ := runs_pure_iff.1 h
    exact absurd ht Turn.not_pure

/-- A turn that calls the action, taken in an attempt of the counting action, is the attempt's
own call, made where the attempt began; or it is taken after the attempt has handed over to
the next round, having called the action once. -/
theorem attempt_call_or_next_round (hR : ∀ x y, R x y → x.2.calls = y.2.calls)
    {o : Nat → Except Fault β}
    (h : Runs R t s (Act.attempt kind (Act.answering o) b again) t₁ s₁ p₁)
    (ht : Turn t₁ s₁ p₁ s₂ p₂) (hcall : s₂.calls ≠ s₁.calls) :
    (t₁ = t ∧ s₁ = s) ∨ ∃ t' s', s'.calls = s.calls + 1 ∧
      Runs R t s (Act.attempt kind (Act.answering o) b again) t' s' (again ()) ∧
      Runs R t' s' (again ()) t₁ s₁ p₁ := by
  rcases Runs.of_bind h with ⟨p', h₁, hres, rfl⟩ | ⟨t₃, s₃, a, h₁, h₂⟩
  · -- within the call, which nothing interrupts: at its read or at its write
    obtain ⟨rfl, rfl, -⟩ := runs_modifyGet_of_unfinished h₁ hres
    exact .inl ⟨rfl, rfl⟩
  · -- the call made, the attempt keeps the new count until the next round
    obtain ⟨rfl, rfl, rfl⟩ := finishes_modifyGet_iff.1 h₁
    have hk : KeepsUntil World.calls (s.calls + 1) (again ())
        (Act.attempt kind (Proc.pure (o s.calls)) b again) :=
      (untouched_calls _).until_attempt .pure
    obtain ⟨t', s', hs', h₃, h₄⟩ := hk.runs_turn hR rfl h₂ ht hcall
    exact .inr ⟨t', s', hs', (Runs.bind h₁ _).trans h₃, h₄⟩

/-- A turn that calls the action in a checked round is the round's own call, begun where the
coordinator is stable, the scope cancelled, the ceiling passed or a wrong state recorded at the
round's start; or it comes after the round handed over to the next, having called once. -/
theorem consumerRound_call (c : SessionConfig) {o : Nat → Except Fault β}
    (h : Runs (Keeping World.callView) t s
      (Act.retryRound kind (some (Act.consumerCheck c)) (Act.answering o) b again) t₁ s₁ p₁)
    (ht : Turn t₁ s₁ p₁ s₂ p₂) (hcall : s₂.calls ≠ s₁.calls) :
    (s₁.calls = s.calls ∧ (s₁.coordinator.isRebalancing = false ∨ s₁.scopeCancelled = true ∨
        t + c.rebalanceCeiling.millisCeil ≤ t₁ ∨ 0 < s.backoff.invalidCount)) ∨
      ∃ t' s', s'.calls = s.calls + 1 ∧
        Runs (Keeping World.callView) t s
          (Act.retryRound kind (some (Act.consumerCheck c)) (Act.answering o) b again) t' s'
          (again ()) ∧
        Runs (Keeping World.callView) t' s' (again ()) t₁ s₁ p₁ := by
  have hR : ∀ x y, Keeping World.callView x y → x.2.calls = y.2.calls :=
    fun _ _ hxy => congrArg Prod.fst hxy
  obtain ⟨t₂, s₃, hs₃, hchk, hpre, h⟩ := retryRound_call_after_check hR
    ((untouched_calls s.calls).keeps_consumerCheck c) h ht hcall
  rcases attempt_call_or_next_round hR h ht hcall with ⟨rfl, rfl⟩ | ⟨t', s', hs', h₁, h₂⟩
  · -- the round's own call, right where the pre-check passed
    refine .inl ⟨hs₃, ?_⟩
    by_cases h0 : s.backoff.invalidCount = 0
    · have hcount : ∀ x y, Keeping World.callView x y →
          Keeping (fun w : World => w.backoff.invalidCount) x y :=
        fun _ _ hxy => congrArg Prod.snd hxy
      rcases finishes_consumerCheck_calm hcount h0 hchk with hst | hsc | hce
      · exact .inl hst
      · exact .inr (.inl hsc)
      · exact .inr (.inr (.inl hce))
    · exact .inr (.inr (.inr (Nat.pos_of_ne_zero h0)))
  · exact .inr ⟨t', s', by rw [hs', hs₃], hpre.trans h₁, h₂⟩

end Round

/-! ## The whole run -/

section Run

variable {β : Type}

/-- Every call of the action in a checked retry run, among an environment that neither calls it nor
records a wrong state, is the `j`th call, of round `j ≤ n`, begun with the coordinator stable, the
scope cancelled, the ceiling passed, or a wrong state recorded when its round began: only then,
after the pre-check's pause, may it fall in a rebalance. -/
theorem checked_call_begins_stable_unless_paused (c : SessionConfig) (kind : ActionKind)
    (o : Nat → Except Fault β) (n : Nat) {t t₁ : Nat} {s s₁ s₂ : World}
    {p₁ p₂ : Act (Except Fault (Option β))}
    (hrun : Runs (Keeping World.callView) t s
      (Act.retry kind (some (Act.consumerCheck c)) (Act.answering o) n) t₁ s₁ p₁)
    (hturn : Turn t₁ s₁ p₁ s₂ p₂) (hcall : s₂.calls ≠ s₁.calls) :
    ∃ j t₀ s₀, j ≤ n ∧ s₁.calls = s.calls + j ∧ s₀.calls = s₁.calls ∧
      Runs (Keeping World.callView) t s
        (Act.retry kind (some (Act.consumerCheck c)) (Act.answering o) n) t₀ s₀
        (Act.retry kind (some (Act.consumerCheck c)) (Act.answering o) (n - j)) ∧
      Runs (Keeping World.callView) t₀ s₀
        (Act.retry kind (some (Act.consumerCheck c)) (Act.answering o) (n - j)) t₁ s₁ p₁ ∧
      (s₁.coordinator.isRebalancing = false ∨ s₁.scopeCancelled = true ∨
        t₀ + c.rebalanceCeiling.millisCeil ≤ t₁ ∨ 0 < s₀.backoff.invalidCount) := by
  -- the rounds one by one: a call is the first round's own, or one of the rest of the run
  induction n generalizing t s with
  | zero =>
    rcases consumerRound_call c hrun hturn hcall with ⟨hs₁, hgood⟩ | ⟨_, _, -, -, h₂⟩
    · exact ⟨0, t, s, Nat.le_refl 0, by omega, hs₁.symm, .refl, hrun, hgood⟩
    · -- after the last round the run has answered: nothing is left to take a turn
      obtain ⟨rfl, -, -⟩ := runs_pure_iff.1 h₂
      exact absurd hturn Turn.not_pure
  | succ n ih =>
    rcases consumerRound_call c hrun hturn hcall with ⟨hs₁, hgood⟩ | ⟨t', s', hs', h₁, h₂⟩
    · exact ⟨0, t, s, Nat.zero_le _, by omega, hs₁.symm, .refl, hrun, hgood⟩
    · obtain ⟨j, t₀, s₀, hj, hcalls, hs₀, hr₁, hr₂, hgood⟩ := ih h₂
      refine ⟨j + 1, t₀, s₀, by omega, by omega, hs₀, ?_, ?_, hgood⟩
      · rw [Nat.add_sub_add_right]
        exact h₁.trans hr₁
      · rw [Nat.add_sub_add_right]
        exact hr₂

/-- A round begun open, connected and stable with one wrong state recorded: a rebalance begins
during the pre-check's pause, and the action is called at its end with the rebalance in flight,
which the recorded wrong state lets in. -/
theorem checked_call_begins_stable_unless_paused_rebalancing :
    ∃ (t₁ : Nat) (s₁ s₂ : World) (p₁ p₂ : Act (Except Fault (Option Unit))),
      Runs (Keeping World.callView) 0
        { World.fresh "orders" {} with
          backoff := { Backoff.new {} with invalidCount := 1 }, consumer := { connected := true } }
        (Act.retry .commit (some (Act.consumerCheck { topic := "orders" }))
          (Act.answering fun _ => .ok ()) 0) t₁ s₁ p₁ ∧
      Turn t₁ s₁ p₁ s₂ p₂ ∧ s₂.calls ≠ s₁.calls ∧
      t₁ = 1000 ∧ s₁.coordinator.isRebalancing = true ∧ s₁.scopeCancelled = false ∧
      ∃ t₀ s₀, Runs (Keeping World.callView) t₀ s₀
          (Act.retry .commit (some (Act.consumerCheck { topic := "orders" }))
            (Act.answering fun _ => .ok ()) 0) t₁ s₁ p₁ ∧
        0 < s₀.backoff.invalidCount := by
  let c : SessionConfig := { topic := "orders" }
  let o : Nat → Except Fault Unit := fun _ => .ok ()
  let s : World := { World.fresh "orders" {} with
    backoff := { Backoff.new {} with invalidCount := 1 }, consumer := { connected := true } }
  let s₁ : World := { s with coordinator := { phase := .rebalancing } }
  -- the pre-check pauses one second; half-way through, a rebalance begins
  have hcheck : Finishes (Keeping World.callView) 0 s (Act.consumerCheck c) 1000 s₁ (.ok ()) :=
    finishes_consumerCheck_after_pause rfl rfl rfl rfl (by decide) rfl rfl (by decide) (by decide)
  have hcl : Finishes (Keeping World.callView) 0 s (Proc.gets (·.closed)) 0 s false :=
    finishes_look_iff.2 (finishes_pure_iff.2 ⟨rfl, rfl, rfl⟩)
  have hput : Runs (Keeping World.callView) 1000 s₁ (Act.answering o) 1000 s₁
      (.put { s₁ with calls := s₁.calls + 1 } (.pure (o s₁.calls))) :=
    .step .look .refl
  -- the round: the flag read, the pre-check, and the call's read; its write is the next turn
  obtain ⟨p₁, p₂, hrun, hturn⟩ : ∃ p₁ p₂, Runs (Keeping World.callView) 0 s
      (Act.retry .commit (some (Act.consumerCheck c)) (Act.answering o) 0) 1000 s₁ p₁ ∧
      Turn 1000 s₁ p₁ { s₁ with calls := s₁.calls + 1 } p₂ := by
    show ∃ p₁ p₂, Runs _ 0 s (Act.retryRound .commit (some (Act.consumerCheck c))
      (Act.answering o) false fun _ => Pure.pure (.ok none)) 1000 s₁ p₁ ∧ _
    unfold Act.retryRound Act.attempt
    exact ⟨_, _, (Runs.bind hcl _).trans ((Runs.bind hcheck _).trans (Runs.bind hput _)),
      Turn.bind Turn.put _⟩
  obtain ⟨j, t₀, s₀, hj, -, -, -, hr₂, hgood⟩ :=
    checked_call_begins_stable_unless_paused c .commit o 0 hrun hturn (Nat.succ_ne_self _)
  obtain rfl : j = 0 := by omega
  refine ⟨1000, s₁, _, p₁, p₂, hrun, hturn, Nat.succ_ne_self _, rfl, rfl, rfl, t₀, s₀, hr₂, ?_⟩
  -- in flight, with the scope live and the ceiling far off: only the recorded wrong state is left
  have hceiling : c.rebalanceCeiling.millisCeil = 1800000 := by decide
  rcases hgood with h | h | h | h
  · exact absurd h (by decide)
  · exact absurd h (by decide)
  · omega
  · exact h

end Run

end BrokerSession
