import BrokerSession.Proofs.Proc.Atomic
import BrokerSession.Session.Consumer

/-!
# What the pre-check sees of a rebalance

The pre-check of a consumer action waits until no rebalance is in flight (or the rebalance
ceiling passes, or the session's scope is cancelled), then pauses one second per wrong state
recorded, then judges the client; a round of the retry executor calls the action in the world
the check passed in. Between two park points nothing else runs
(`Finishes`), so when no wrong state is recorded the check passes right where its wait ended:
the action begins with no rebalance in flight, unless the ceiling passed or the scope was
cancelled (`finishes_consumerCheck_calm`).

The pause is a park point that no second look at the coordinator follows, and the verdict does
not count a rebalance against the client. So from a stable world with a wrong state recorded,
the check passes in whatever world the processes beside it leave by the end of the pause, one
with a rebalance in flight included (`finishes_consumerCheck_after_pause`).
-/

namespace BrokerSession

open Proc

namespace Proc

variable {σ α : Type} {R : Nat × σ → Nat × σ → Prop} {t t' : Nat} {s s' : σ}

theorem finishes_wait_moves {w : Wake σ} {k : Proc σ α} {b : α}
    (h : Finishes R t s (.wait w k) t' s' b) :
    ∃ t₁ s₁, Relation.ReflTransGen R (t, s) (t₁, s₁) ∧ w.due t₁ s₁ = true ∧
      Finishes R t₁ s₁ k t' s' b := by
  unfold Finishes at h
  generalize hp : Proc.wait w k = p at h
  generalize hb : Proc.pure b = q at h
  induction h with
  | refl => subst hp; cases hb
  | step hs hr =>
    subst hp hb
    cases hs with
    | wait hd => exact ⟨_, _, .refl, hd, hr⟩
  | env _ hR _ ih =>
    subst hp hb
    obtain ⟨t₁, s₁, hm, hd, hk⟩ := ih rfl rfl
    exact ⟨t₁, s₁, .head hR hm, hd, hk⟩

end Proc

section Precheck

variable {R : Nat × World → Nat × World → Prop} {c : SessionConfig} {t t₁ : Nat} {s s₁ : World}

/-- The wait for a stable assignment ends, after the environment's moves, with no rebalance in
flight, the scope cancelled, or the ceiling passed since the wait began. -/
theorem finishes_awaitStable {ceiling : Span} {u : Unit}
    (h : Finishes R t s (Act.awaitStable ceiling) t₁ s₁ u) :
    Relation.ReflTransGen R (t, s) (t₁, s₁) ∧ (s₁.coordinator.isRebalancing = false ∨
      s₁.scopeCancelled = true ∨ t + ceiling.millisCeil ≤ t₁) := by
  unfold Act.awaitStable at h
  rw [finishes_get_bind_iff] at h
  split at h
  · next hs =>
    rw [pure_eq, finishes_pure_iff] at h
    obtain ⟨-, rfl, rfl⟩ := h
    exact ⟨.refl, .inl (by simpa using hs)⟩
  · rw [finishes_now_bind_iff] at h
    obtain ⟨t₂, s₂, hm, hd, hk⟩ := finishes_wait_moves h
    obtain ⟨-, rfl, rfl⟩ := finishes_pure_iff.1 hk
    refine ⟨hm, ?_⟩
    simp only [Wake.due, Bool.or_eq_true, decide_eq_true_eq, Bool.not_eq_true'] at hd
    rcases hd with hd | hd | hd
    · exact .inr (.inr hd)
    · exact .inl hd
    · exact .inr (.inl hd)

/-- A judgement that passes went through the end of its wait for a stable assignment, and
passed right there when no wrong state was recorded there. -/
theorem finishes_judgeClient_ok (h : Finishes R t s (Act.judgeClient c) t₁ s₁ (.ok ())) :
    ∃ t₂ s₂, Relation.ReflTransGen R (t, s) (t₂, s₂) ∧ (s₂.coordinator.isRebalancing = false ∨
      s₂.scopeCancelled = true ∨ t + c.rebalanceCeiling.millisCeil ≤ t₂) ∧
      (s₂.backoff.invalidCount = 0 → t₁ = t₂ ∧ s₁ = s₂) := by
  unfold Act.judgeClient at h
  dsimp only at h
  obtain ⟨t₂, s₂, u, haw, h⟩ := finishes_bind_iff.1 h
  obtain ⟨hm, hwake⟩ := finishes_awaitStable haw
  refine ⟨t₂, s₂, hm, hwake, fun h0 => ?_⟩
  -- with no wrong state recorded there is no pause: the verdict is read at once
  rw [finishes_gets_bind_iff, if_neg (show ¬ s₂.backoff.invalidCount > 0 by omega),
    finishes_get_bind_iff] at h
  split at h
  · rw [pure_eq, finishes_pure_iff] at h
    cases h.1
  · rw [pure_eq, finishes_pure_iff] at h
    obtain ⟨-, rfl, rfl⟩ := h
    exact ⟨rfl, rfl⟩

theorem finishes_consumerConnect {r : Except Fault Unit}
    (h : Finishes R t s Act.consumerConnect t₁ s₁ r) : t₁ = t ∧ s₁.backoff = s.backoff := by
  unfold Act.consumerConnect at h
  rw [finishes_modifyGet_bind_iff] at h
  -- either answer emits one event, and neither touches the time or the backoff
  rcases hcon : s.consumer.connect with ⟨_ | e, cons⟩ <;>
  · simp only [hcon, Act.emit, finishes_modify_bind_iff, pure_eq, finishes_pure_iff] at h
    obtain ⟨-, rfl, rfl⟩ := h
    exact ⟨rfl, rfl⟩

/-- Among processes that record no wrong state, a pre-check that begins with none recorded
passes only with no rebalance in flight, the scope cancelled, or the ceiling passed. -/
theorem finishes_consumerCheck_calm
    (hR : ∀ x y, R x y → Keeping (fun w : World => w.backoff.invalidCount) x y)
    (h0 : s.backoff.invalidCount = 0) (h : Finishes R t s (Act.consumerCheck c) t₁ s₁ (.ok ())) :
    s₁.coordinator.isRebalancing = false ∨ s₁.scopeCancelled = true ∨
      t + c.rebalanceCeiling.millisCeil ≤ t₁ := by
  -- the judgement begins at once, after a reconnection if the connection was down
  obtain ⟨s₀, hs₀, hj⟩ : ∃ s₀ : World, s₀.backoff = s.backoff ∧
      Finishes R t s₀ (Act.judgeClient c) t₁ s₁ (.ok ()) := by
    unfold Act.consumerCheck at h
    dsimp only at h
    rw [finishes_gets_bind_iff] at h
    split at h
    · rw [pure_eq, finishes_pure_iff] at h
      cases h.1
    · rw [finishes_gets_bind_iff] at h
      split at h
      · obtain ⟨t₂, s₂, r, hc, h⟩ := finishes_bind_iff.1 h
        obtain ⟨rfl, hb⟩ := finishes_consumerConnect hc
        rcases r with e | ⟨⟩
        · simp only [pure_eq, finishes_pure_iff, reduceCtorEq, false_and] at h
        · exact ⟨s₂, hb, h⟩
      · exact ⟨s, rfl, h⟩
  obtain ⟨t₂, s₂, hm, hwake, hcalm⟩ := finishes_judgeClient_ok hj
  have hcount : s₂.backoff.invalidCount = 0 := by
    rw [← moves_keeping_iff.1 (Relation.ReflTransGen.mono hR _ _ hm), hs₀, h0]
  obtain ⟨rfl, rfl⟩ := hcalm hcount
  exact hwake

/-- From an open, connected, stable world with a wrong state recorded and a live scope, the
pre-check pauses, and passes in any world the processes beside it may leave with a live scope and a
verdict that is not fatal, a rebalance in flight among them. -/
theorem finishes_consumerCheck_after_pause {ω : Type} {f : World → ω} (hclosed : s.closed = false)
    (hconn : s.consumer.connected = true) (hstable : s.coordinator.isRebalancing = false)
    (hscope : s.scopeCancelled = false) (hpos : 0 < s.backoff.invalidCount)
    (hkeep : f s₁ = f s) (hscope₁ : s₁.scopeCancelled = false) (hverdict : c.verdict s₁ ≠ .fatal)
    (ht : t + (Span.ofMillis (1000 * s.backoff.invalidCount)).millisCeil ≤ t₁) :
    Finishes (Keeping f) t s (Act.consumerCheck c) t₁ s₁ (.ok ()) := by
  have hpause : 0 < (Span.ofMillis (1000 * s.backoff.invalidCount)).millisCeil := by
    simp only [Span.ofMillis, Span.millisCeil]
    omega
  unfold Act.consumerCheck Act.judgeClient Act.awaitStable
  dsimp only
  simp only [finishes_gets_bind_iff, hclosed, hconn, Bool.false_eq_true, if_false, Bool.not_true]
  rw [finishes_bind_iff]
  refine ⟨t, s, (), ?_, ?_⟩
  · -- no rebalance is in flight: the wait ends at once
    rw [finishes_get_bind_iff, if_pos (by simp [hstable])]
    exact finishes_pure_iff.2 ⟨rfl, rfl, rfl⟩
  rw [finishes_gets_bind_iff, if_pos hpos, finishes_bind_iff]
  refine ⟨t₁, s₁, false, ?_, ?_⟩
  · -- the pause parks, and the processes beside it move the world to `s₁`
    unfold Act.sleepUnlessCancelled
    rw [finishes_now_bind_iff, finishes_await_bind_iff]
    refine .inr ⟨?_, t₁, s₁, hkeep, ?_, ?_⟩
    · simp only [Wake.due, hscope, Bool.or_false, decide_eq_false_iff_not, Nat.not_le]
      omega
    · simp only [Wake.due, Bool.or_eq_true, decide_eq_true_eq]
      exact .inl ht
    · exact finishes_look_iff.2 (finishes_pure_iff.2 ⟨hscope₁.symm, rfl, rfl⟩)
  · -- the verdict does not count the rebalance
    rw [if_neg Bool.false_ne_true, finishes_get_bind_iff,
      if_neg (fun hv => hverdict (beq_iff_eq.1 hv))]
    exact finishes_pure_iff.2 ⟨rfl, rfl, rfl⟩

end Precheck

end BrokerSession
