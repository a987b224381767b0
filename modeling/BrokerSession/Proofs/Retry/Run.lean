import BrokerSession.Session.Retry
import BrokerSession.Proofs.Proc.Keeping
import BrokerSession.Proofs.Retry.Attempts

/-!
# What a run of the retry loop answers

The loop is run here on an action that answers its `j`th call (counting the calls already
made, as the world's `calls` counter does) with a given outcome `o j`, and on a pre-check that
answers the same way from the `checks` counter. Such a pair covers every sequence of outcomes
and every behaviour of the pre-check. The environment may do anything but call the action or
the pre-check itself: it closes the session, cancels the scope, moves the clock and changes the
backoff as it likes (`Keeping World.counters`).

The main statement, `retry_answers`, says that the answers of the loop are exactly those that
`runAnswer` gives for some choice of the environment (`Interference`), with the action called
`runCalls` times and the pre-check `runChecks` times, so at most once more than there are
retries. It is proved one round at a time: `returns_retryRound_iff` says what one round does,
and `exists_run_succ_iff` what the description of the run says about its first attempt; the
two have the same shape, and an induction on the retries lines them up.
-/

namespace BrokerSession

/-- The number of calls of the action and of the pre-check made so far. -/
def World.counters (w : World) : Nat × Nat := (w.calls, w.checks)

namespace Act

variable {β : Type}

/-- The action whose call number `j`, counted by the world's `calls`, answers `o j`. -/
def answering (o : Nat → Except Fault β) : Act (Except Fault β) :=
  Proc.modifyGet fun w => (o w.calls, { w with calls := w.calls + 1 })

/-- The pre-check whose call number `j`, counted by the world's `checks`, answers `c j`. -/
def checking (c : Nat → Except Fault Unit) : Act (Except Fault Unit) :=
  Proc.modifyGet fun w => (c w.checks, { w with checks := w.checks + 1 })

end Act

namespace Proc

/-- The environment of a retried run: anything but a call of the action or the pre-check. -/
abbrev Uncounted : Nat × World → Nat × World → Prop := Keeping World.counters

variable {α β : Type} {t t' : Nat} {s s' : World}

/-! ## The nodes of a round -/

theorem returns_answering_bind_iff {o : Nat → Except Fault β} {k : Except Fault β → Act α}
    {a : α} :
    Returns Uncounted t s (Act.answering o >>= k) t' s' a ↔
      Returns Uncounted t { s with calls := s.calls + 1 } (k (o s.calls)) t' s' a := by
  rw [Act.answering, keeping_modifyGet_bind_iff]
  constructor
  · rintro ⟨x, hx, hr⟩
    simp only [World.counters, Prod.mk.injEq] at hx
    rw [hx.1] at hr
    exact hr.restart (by simp [World.counters, hx.2])
  · exact fun hr => ⟨s, rfl, hr⟩

theorem returns_checking_bind_iff {c : Nat → Except Fault Unit} {k : Except Fault Unit → Act α}
    {a : α} :
    Returns Uncounted t s (Act.checking c >>= k) t' s' a ↔
      Returns Uncounted t { s with checks := s.checks + 1 } (k (c s.checks)) t' s' a := by
  rw [Act.checking, keeping_modifyGet_bind_iff]
  constructor
  · rintro ⟨x, hx, hr⟩
    simp only [World.counters, Prod.mk.injEq] at hx
    rw [hx.2] at hr
    exact hr.restart (by simp [World.counters, hx.1])
  · exact fun hr => ⟨s, rfl, hr⟩

theorem returns_closed_bind_iff {k : Bool → Act α} {a : α} :
    Returns Uncounted t s (gets (·.closed) >>= k) t' s' a ↔
      ∃ b, Returns Uncounted t s (k b) t' s' a := by
  rw [keeping_gets_bind_iff]
  constructor
  · rintro ⟨x, hx, hr⟩
    exact ⟨x.closed, hr.restart hx.symm⟩
  · rintro ⟨b, hr⟩
    exact ⟨{ s with closed := b }, rfl, hr.restart rfl⟩

/-! ## Panics -/

section Halt

variable {R : Nat × World → Nat × World → Prop}

/-- A panic never finishes. -/
theorem not_returns_halt {h : Halt} {a : α} : ¬ Returns R t s (Act.halt h : Act α) t' s' a := by
  intro hr
  obtain ⟨_, _, _, -, hr⟩ := returns_bind_iff.1 hr
  exact not_returns_never hr

theorem returns_orHalt_bind_iff {e : Except Halt β} {k : β → Act α} {a : α} :
    Returns R t s (Act.orHalt e >>= k) t' s' a ↔ ∃ v, e = .ok v ∧ Returns R t s (k v) t' s' a := by
  cases e with
  | ok v => exact ⟨fun hr => ⟨v, rfl, hr⟩, fun ⟨_, hv, hr⟩ => by cases hv; exact hr⟩
  | error h =>
    refine ⟨fun hr => ?_, fun ⟨_, hv, _⟩ => by cases hv⟩
    obtain ⟨_, _, _, hr, -⟩ := returns_bind_iff.1 hr
    exact absurd hr not_returns_halt

end Halt

/-! ## What the environment decides -/

/-- The environment decides whether the session is found closed. -/
theorem neutral_closed : Neutral World.counters (gets (·.closed)) fun _ => True := by
  intro t s t' s' b
  show Returns Uncounted t s (gets (·.closed) >>= Proc.pure) t' s' b ↔ _
  rw [keeping_gets_bind_iff]
  simp only [keeping_pure_iff, and_true]
  constructor
  · rintro ⟨x, hx, -, hs⟩
    exact hs.trans hx
  · exact fun hs => ⟨{ s with closed := b }, rfl, rfl, hs⟩

theorem neutral_resetBackoff : Neutral World.counters Act.resetBackoff fun _ => True := by
  intro t s t' s' u
  show Returns Uncounted t s (Act.resetBackoff >>= Proc.pure) t' s' u ↔ _
  rw [Act.resetBackoff, keeping_modify_bind_iff]
  simp only [keeping_pure_iff, and_true]
  constructor
  · rintro ⟨x, hx, -, hs⟩
    exact hs.trans hx
  · exact fun hs => ⟨s, rfl, trivial, hs⟩

/-- Growing the backoff leaves the counters alone; it answers every delay some backoff grows
to, the environment having set the backoff as it likes. -/
theorem neutral_growBackoff :
    Neutral World.counters Act.growBackoff fun d => ∃ b₀ b : Backoff, b₀.increase = .ok (d, b) := by
  intro t s t' s' d
  rw [Act.growBackoff, keeping_get_bind_iff]
  simp only [returns_orHalt_bind_iff]
  constructor
  · rintro ⟨w, hw, ⟨d', b⟩, hv, hr⟩
    rw [keeping_set_bind_iff, pure_eq, keeping_pure_iff] at hr
    obtain ⟨rfl, hs⟩ := hr
    exact ⟨hs.trans hw, w.backoff, b, hv⟩
  · rintro ⟨hs, b₀, b, hv⟩
    refine ⟨{ s with backoff := b₀ }, rfl, (d, b), hv, ?_⟩
    rw [keeping_set_bind_iff, pure_eq, keeping_pure_iff]
    exact ⟨rfl, hs⟩

/-- Some backoff can grow: the environment can always let a retry sleep. -/
theorem exists_increase : ∃ (d : Span) (b₀ b : Backoff), b₀.increase = .ok (d, b) := by
  have h : (Backoff.new {}).increase.isOk = true := by decide +kernel
  cases hv : (Backoff.new {}).increase with
  | ok v => exact ⟨v.1, _, v.2, hv⟩
  | error => simp [hv, Except.isOk, Except.toBool] at h

theorem neutral_countWrongState : Neutral World.counters Act.countWrongState fun _ => True := by
  intro t s t' s' u
  rw [Act.countWrongState, keeping_get_bind_iff]
  simp only [returns_orHalt_bind_iff, and_true]
  constructor
  · rintro ⟨w, hw, ⟨n, b⟩, hv, hr⟩
    rw [Proc.set, keeping_put_iff, keeping_pure_iff] at hr
    exact hr.2.trans hw
  · intro hs
    refine ⟨{ s with backoff := { s.backoff with invalidCount := 0 } }, rfl, (1, _), rfl, ?_⟩
    rw [Proc.set, keeping_put_iff, keeping_pure_iff]
    exact ⟨rfl, hs⟩

/-- Tokens in which token `id` is cancelled exactly when `b` holds. -/
def Tokens.cancelledIf (id : Nat) (b : Bool) : Tokens :=
  if b then ⟨Array.replicate (id + 1) ⟨none, true⟩⟩ else {}

theorem Tokens.isCancelled_cancelledIf (id : Nat) (b : Bool) :
    (Tokens.cancelledIf id b).isCancelled id = b := by
  cases b <;> simp [Tokens.cancelledIf, Tokens.isCancelled]

/-- The environment decides whether the scope is cancelled when the sleep ends. -/
theorem neutral_sleepUnlessCancelled (d : Span) :
    Neutral World.counters (Act.sleepUnlessCancelled d) fun _ => True := by
  intro t s t' s' b
  rw [Act.sleepUnlessCancelled, keeping_now_bind_iff]
  simp only [keeping_await_bind_iff, and_true]
  constructor
  · rintro ⟨_, _, x, hx, -, hr⟩
    change Returns Uncounted t x (gets World.scopeCancelled >>= Proc.pure) t' s' b at hr
    rw [keeping_gets_bind_iff] at hr
    obtain ⟨y, hy, hr⟩ := hr
    rw [keeping_pure_iff] at hr
    exact hr.2.trans (hy.trans hx)
  · intro hs
    let x := { s with tokens := Tokens.cancelledIf s.scope b }
    refine ⟨0, d.millisCeil, x, rfl, by simp [Wake.due], ?_⟩
    change Returns Uncounted t x (gets World.scopeCancelled >>= Proc.pure) t' s' b
    rw [keeping_gets_bind_iff]
    refine ⟨x, rfl, ?_⟩
    rw [keeping_pure_iff]
    exact ⟨(Tokens.isCancelled_cancelledIf _ _).symm, hs⟩

/-! ## One round -/

theorem classify_eq_benign_iff {kind : ActionKind} {e : Fault} :
    e.classify kind = .benign ↔ e.isOkay kind = true := by
  unfold Fault.classify
  cases e.isOkay kind <;> cases e.isWrongState <;> cases e.isRetryable <;> simp

/-- The failure that ends a run is the fault wrapped under its label. -/
theorem failure_eq_wrap (kind : ActionKind) (retryable : Bool) (e : Fault) :
    Act.failure kind retryable e = e.wrap (failureLabel kind retryable) := by
  cases retryable <;> simp only [Act.failure, failureLabel, toString, String.append_assoc,
    String.append_empty, if_true, if_false, Bool.false_eq_true]

section Round

variable {kind : ActionKind} {canRetry : Bool} {again : Unit → Act (Except Fault (Option β))}
  {r : Except Fault (Option β)}

theorem returns_retryOrFail_iff {e : Fault} :
    Returns Uncounted t s (Act.retryOrFail kind canRetry again e) t' s' r ↔
      if e.isRetryable && canRetry then
        (r = .ok none ∧ s'.counters = s.counters) ∨ Returns Uncounted t s (again ()) t' s' r
      else r = .error (Act.failure kind e.isRetryable e) ∧ s'.counters = s.counters := by
  by_cases h : e.isRetryable && canRetry
  · simp only [Act.retryOrFail, h, if_true, neutral_growBackoff.bind_iff]
    constructor
    · rintro ⟨d, -, hr⟩
      obtain ⟨b, -, hr⟩ := (neutral_sleepUnlessCancelled d).bind_iff.1 hr
      cases b
      · exact .inr hr
      · exact .inl (keeping_pure_iff.1 hr)
    · intro hr
      obtain ⟨d, b₀, b, hb⟩ := exists_increase
      refine ⟨d, ⟨b₀, b, hb⟩, (neutral_sleepUnlessCancelled d).bind_iff.2 ?_⟩
      rcases hr with hr | hr
      · exact ⟨true, trivial, keeping_pure_iff.2 hr⟩
      · exact ⟨false, trivial, hr⟩
  · simp only [Act.retryOrFail, h, Bool.false_eq_true, if_false, neutral_resetBackoff.bind_iff,
      true_and, exists_const, pure_eq, keeping_pure_iff]

/-- A fault acceptable for the action's kind means nothing was done; any other is retried or
ends the run. -/
theorem returns_onFault_iff {e : Fault} :
    Returns Uncounted t s (Act.onFault kind canRetry again e) t' s' r ↔
      if e.isOkay kind then r = .ok none ∧ s'.counters = s.counters
      else Returns Uncounted t s (Act.retryOrFail kind canRetry again e) t' s' r := by
  by_cases hk : e.isOkay kind
  · have hc : e.classify kind = .benign := classify_eq_benign_iff.2 hk
    simp only [Act.onFault, hc, hk, if_true, pure_eq, keeping_pure_iff]
  · simp only [hk, Bool.false_eq_true, if_false]
    unfold Act.onFault
    cases hc : e.classify kind with
    | benign => exact absurd (classify_eq_benign_iff.1 hc) hk
    | wrongState =>
      -- the wrong-state bookkeeping only touches the backoff
      simp only [neutral_growBackoff.bind_iff, neutral_countWrongState.bind_iff, true_and,
        exists_const]
      obtain ⟨d, b₀, b, hb⟩ := exists_increase
      exact ⟨fun ⟨_, _, hr⟩ => hr, fun hr => ⟨d, ⟨b₀, b, hb⟩, hr⟩⟩
    | retryable | fatal => rfl

/-- The action's call in a round. Its outcome answers when it settles the run or no retry is
left; otherwise the loop sleeps and either finds the scope cancelled or goes on. -/
theorem returns_attempt_iff {o : Nat → Except Fault β} :
    Returns Uncounted t s (Act.attempt kind (Act.answering o) canRetry again) t' s' r ↔
      if kind.settles (o s.calls) || !canRetry then
        r = decisiveAnswer kind (o s.calls) ∧ s'.counters = (s.calls + 1, s.checks)
      else (r = .ok none ∧ s'.counters = (s.calls + 1, s.checks)) ∨
        Returns Uncounted t { s with calls := s.calls + 1 } (again ()) t' s' r := by
  rw [Act.attempt, returns_answering_bind_iff]
  cases o s.calls with
  | ok v =>
    simp only [ActionKind.settles, Bool.true_or, if_true, decisiveAnswer]
    by_cases hk : kind != .connect
    · simp only [hk, if_true, neutral_resetBackoff.bind_iff, true_and, exists_const, pure_eq,
        keeping_pure_iff]
      rfl
    · simp only [hk, Bool.false_eq_true, if_false, pure_eq, keeping_pure_iff]
      rfl
  | error e =>
    dsimp only
    rw [returns_onFault_iff]
    by_cases hk : e.isOkay kind
    · simp only [ActionKind.settles, decisiveAnswer, hk, Bool.true_or, if_true]
      rfl
    · rw [if_neg hk, returns_retryOrFail_iff]
      cases hr : e.isRetryable <;> cases canRetry <;>
        simp [ActionKind.settles, decisiveAnswer, hk, hr, failure_eq_wrap, World.counters]

/-- From `s` to `s'` the action was called `k` times and the pre-check `m` times, the latter
counted only when there is a pre-check. -/
def Counted (c : Option (Nat → Except Fault Unit)) (s s' : World) (k m : Nat) : Prop :=
  s'.calls = s.calls + k ∧ s'.checks = s.checks + if c.isSome then m else 0

/-- The pre-check's answers from the world's count of checks on; without a pre-check every
check passes. -/
def checkScript (c : Option (Nat → Except Fault Unit)) (s : World) : Nat → Except Fault Unit :=
  match c with
  | some c => fun j => c (s.checks + j)
  | none => fun _ => .ok ()

/-- The world after an attempt: one more call, and one more check if there is a pre-check. -/
def afterAttempt (c : Option (Nat → Except Fault Unit)) (s : World) : World :=
  { s with calls := s.calls + 1, checks := s.checks + if c.isSome then 1 else 0 }

theorem checkScript_afterAttempt (c : Option (Nat → Except Fault Unit)) (s : World) :
    checkScript c (afterAttempt c s) = fun j => checkScript c s (j + 1) := by
  cases c with
  | none => rfl
  | some c =>
    funext j
    simp only [checkScript, afterAttempt, Option.isSome_some, if_true]
    rw [Nat.add_right_comm, Nat.add_assoc]

theorem counted_afterAttempt {c : Option (Nat → Except Fault Unit)} {k m : Nat} :
    Counted c (afterAttempt c s) s' k m ↔ Counted c s s' (k + 1) (m + 1) := by
  cases c <;> simp only [Counted, afterAttempt, Option.isSome_none, Option.isSome_some,
    Bool.false_eq_true, ↓reduceIte] <;> omega

theorem counted_iff {c : Option (Nat → Except Fault Unit)} {k m : Nat} :
    Counted c s s' k m ↔ s'.counters = (s.calls + k, s.checks + if c.isSome then m else 0) := by
  simp [Counted, World.counters]

theorem returns_retryRound_iff {c : Option (Nat → Except Fault Unit)} {o : Nat → Except Fault β} :
    Returns Uncounted t s
        (Act.retryRound kind (c.map Act.checking) (Act.answering o) canRetry again) t' s' r ↔
      (r = .ok none ∧ Counted c s s' 0 0) ∨
      (∃ e, checkScript c s 0 = .error e ∧ r = .error e ∧ Counted c s s' 0 1) ∨
      (checkScript c s 0 = .ok () ∧
        if kind.settles (o s.calls) || !canRetry then
          r = decisiveAnswer kind (o s.calls) ∧ Counted c s s' 1 1
        else (r = .ok none ∧ Counted c s s' 1 1) ∨
          Returns Uncounted t (afterAttempt c s) (again ()) t' s' r) := by
  unfold Act.retryRound
  rw [neutral_closed.bind_iff]
  simp only [true_and, Bool.exists_bool, Bool.false_eq_true, if_false, if_true, pure_eq,
    keeping_pure_iff]
  rw [or_comm]
  apply or_congr
  · cases c <;> simp [Counted, World.counters]
  · cases c with
    | none =>
      simp only [Option.map_none, checkScript, returns_attempt_iff, counted_iff,
        Option.isSome_none, Bool.false_eq_true, ↓reduceIte, Nat.add_zero, reduceCtorEq,
        false_and, exists_false, false_or, true_and]
      rfl
    | some c =>
      simp only [Option.map_some, returns_checking_bind_iff, checkScript, Nat.add_zero]
      cases c s.checks with
      | error e => simp [Counted, World.counters, keeping_pure_iff]
      | ok u =>
        simp only [returns_attempt_iff, counted_iff, Option.isSome_some, ↓reduceIte,
          reduceCtorEq, false_and, exists_false, false_or, true_and]
        rfl

/-! ## The whole run -/

theorem outcomes_afterAttempt (c : Option (Nat → Except Fault Unit)) (o : Nat → Except Fault β) :
    (fun j => o ((afterAttempt c s).calls + j)) = fun j => o (s.calls + (j + 1)) := by
  funext j
  simp only [afterAttempt]
  rw [Nat.add_right_comm, Nat.add_assoc]

/-- What a run with `n` retries answers, and how often it calls the action and the
pre-check. -/
theorem returns_retry_iff {c : Option (Nat → Except Fault Unit)} {o : Nat → Except Fault β}
    {n : Nat} :
    Returns Uncounted t s (Act.retry kind (c.map Act.checking) (Act.answering o) n) t' s' r ↔
      ∃ env, r = runAnswer kind n (checkScript c s) (fun j => o (s.calls + j)) env ∧
        Counted c s s' (runCalls kind n (checkScript c s) (fun j => o (s.calls + j)) env)
          (runChecks kind n (checkScript c s) (fun j => o (s.calls + j)) env) := by
  induction n generalizing s with
  | zero =>
    rw [Act.retry, returns_retryRound_iff,
      exists_run_zero_iff (fun a k m => r = a ∧ Counted c s s' k m)]
    simp only [Bool.not_false, Bool.or_true, ↓reduceIte, Nat.add_zero]
  | succ n ih =>
    rw [Act.retry, returns_retryRound_iff,
      exists_run_succ_iff (fun a k m => r = a ∧ Counted c s s' k m)]
    simp only [Bool.not_true, Bool.or_false, Nat.add_zero, ih, checkScript_afterAttempt,
      counted_afterAttempt, outcomes_afterAttempt]

/-- A run of the retry loop with `n` retries answers exactly what the description of a run
gives for some interference of the environment, with the action and the pre-check called as
often as it says; in particular the action runs at most `n + 1` times. -/
theorem retry_answers {c : Option (Nat → Except Fault Unit)} {o : Nat → Except Fault β}
    {n : Nat} :
    (Returns Uncounted t s (Act.retry kind (c.map Act.checking) (Act.answering o) n) t' s' r ↔
      ∃ env, r = runAnswer kind n (checkScript c s) (fun j => o (s.calls + j)) env ∧
        Counted c s s' (runCalls kind n (checkScript c s) (fun j => o (s.calls + j)) env)
          (runChecks kind n (checkScript c s) (fun j => o (s.calls + j)) env)) ∧
    (Returns Uncounted t s (Act.retry kind (c.map Act.checking) (Act.answering o) n) t' s' r →
      s'.calls ≤ s.calls + (n + 1)) := by
  refine ⟨returns_retry_iff, fun h => ?_⟩
  obtain ⟨env, -, hcalls, -⟩ := returns_retry_iff.1 h
  rw [hcalls]
  exact Nat.add_le_add_left runCalls_le s.calls

end Round

end Proc

end BrokerSession
