import BrokerSession.Fault.Class

/-!
# What decides a retried run

A run of the retry loop with `n` retries meets, attempt after attempt (counting from zero),
the answers of the pre-check and the outcomes of the action, and what the environment does:
it may close the session before an attempt and cancel the scope while the loop sleeps after
one. This module says, without the loop, what the run answers.

The *decisive* attempt `i*` is the first whose outcome settles the run (a value, a fault the
action may ignore, or a fault that is not retryable) or else attempt `n`, the last the budget
allows. Before the decisive attempt has its say the run may be interrupted: at an attempt
`j ≤ i*` the session is found closed or the pre-check fails, or, for `j < i*`, the scope is
cancelled during the sleep after it. The first interruption answers (nothing done, or the
pre-check's fault as it is); without one the decisive outcome answers: its value, nothing for
an acceptable fault, and otherwise the fault wrapped as `Failure to <verb>`, followed by
` after retries` exactly when the fault was retryable.

`runAnswer_succ` and `runAnswer_zero` unfold the answer one attempt at a time, which is how
the loop computes it.
-/

namespace BrokerSession

/-- What the environment does to a retried run, attempt by attempt: whether the session is
closed when attempt `j` begins, and whether the scope is cancelled during the backoff sleep
after attempt `j`. -/
structure Interference where
  closedAt : Nat → Bool
  cancelledAfter : Nat → Bool

namespace Interference

/-- The interference from the second attempt on. -/
def shift (env : Interference) : Interference :=
  ⟨fun j => env.closedAt (j + 1), fun j => env.cancelledAfter (j + 1)⟩

/-- The interference `b` at the first attempt and `c` after it, then `env`. -/
def cons (b c : Bool) (env : Interference) : Interference :=
  ⟨fun j => Nat.casesOn j b env.closedAt, fun j => Nat.casesOn j c env.cancelledAfter⟩

@[simp] theorem shift_cons (b c : Bool) (env : Interference) : (cons b c env).shift = env := rfl

@[simp] theorem cons_closedAt_zero (b c : Bool) (env : Interference) :
    (cons b c env).closedAt 0 = b := rfl

@[simp] theorem cons_cancelledAfter_zero (b c : Bool) (env : Interference) :
    (cons b c env).cancelledAfter 0 = c := rfl

instance : Inhabited Interference := ⟨⟨fun _ => false, fun _ => false⟩⟩

theorem cons_shift (env : Interference) :
    cons (env.closedAt 0) (env.cancelledAfter 0) env.shift = env := by
  obtain ⟨closedAt, cancelledAfter⟩ := env
  simp only [cons, shift, mk.injEq]
  constructor <;> funext j <;> cases j <;> rfl

/-- Every interference is one at the first attempt followed by one for the rest. -/
theorem exists_cons_iff {P : Interference → Prop} :
    (∃ env, P env) ↔ ∃ b c env, P (cons b c env) :=
  ⟨fun ⟨env, h⟩ => ⟨_, _, _, (cons_shift env).symm ▸ h⟩, fun ⟨_, _, _, h⟩ => ⟨_, h⟩⟩

end Interference

variable {β : Type}

/-- The outcome settles a run of `kind`: a value, a fault acceptable for `kind`, or a fault
that is not retryable. -/
def ActionKind.settles (kind : ActionKind) : Except Fault β → Bool
  | .ok _ => true
  | .error e => e.isOkay kind || !e.isRetryable

/-- The attempt whose outcome decides a run with `n` retries: the first whose outcome settles
it, or attempt `n`. -/
def decisiveAttempt (kind : ActionKind) (n : Nat) (o : Nat → Except Fault β) : Nat :=
  ((List.range n).find? fun i => kind.settles (o i)).getD n

/-- Why a run stops before its decisive attempt has its say. -/
inductive Interruption where
  /-- the session was closed when the attempt began -/
  | closed
  /-- the pre-check failed; the action did not run -/
  | refused (e : Fault)
  /-- the scope was cancelled during the sleep after the attempt -/
  | cancelled

/-- What interrupts attempt `j` of a run whose decisive attempt is `i`, given the pre-check's
answers `c`. -/
def interruptionAt (env : Interference) (c : Nat → Except Fault Unit) (i j : Nat) :
    Option Interruption :=
  if env.closedAt j then some .closed
  else match c j with
    | .error e => some (.refused e)
    | .ok () => if decide (j < i) && env.cancelledAfter j then some .cancelled else none

/-- The first interruption at or before the decisive attempt `i`, with its attempt. -/
def firstInterruption (env : Interference) (c : Nat → Except Fault Unit) (i : Nat) :
    Option (Nat × Interruption) :=
  (List.range (i + 1)).findSome? fun j => (interruptionAt env c i j).map ((j, ·))

/-- `Failure to <verb>`, followed by ` after retries` for a retryable fault. -/
def failureLabel (kind : ActionKind) (retryable : Bool) : String :=
  s!"Failure to {kind.verb}" ++ if retryable then " after retries" else ""

/-- What the decisive outcome answers. -/
def decisiveAnswer (kind : ActionKind) : Except Fault β → Except Fault (Option β)
  | .ok v => .ok (some v)
  | .error e => if e.isOkay kind then .ok none else .error (e.wrap (failureLabel kind e.isRetryable))

/-- The answer of a run of `kind` with `n` retries, pre-check answers `c`, outcomes `o` and
interference `env`. -/
def runAnswer (kind : ActionKind) (n : Nat) (c : Nat → Except Fault Unit)
    (o : Nat → Except Fault β) (env : Interference) : Except Fault (Option β) :=
  match firstInterruption env c (decisiveAttempt kind n o) with
  | some (_, .closed) => .ok none
  | some (_, .refused e) => .error e
  | some (_, .cancelled) => .ok none
  | none => decisiveAnswer kind (o (decisiveAttempt kind n o))

/-- How many times the action runs. -/
def runCalls (kind : ActionKind) (n : Nat) (c : Nat → Except Fault Unit)
    (o : Nat → Except Fault β) (env : Interference) : Nat :=
  match firstInterruption env c (decisiveAttempt kind n o) with
  | some (j, .closed) => j
  | some (j, .refused _) => j
  | some (j, .cancelled) => j + 1
  | none => decisiveAttempt kind n o + 1

/-- How many times the pre-check runs. -/
def runChecks (kind : ActionKind) (n : Nat) (c : Nat → Except Fault Unit)
    (o : Nat → Except Fault β) (env : Interference) : Nat :=
  match firstInterruption env c (decisiveAttempt kind n o) with
  | some (j, .closed) => j
  | some (j, _) => j + 1
  | none => decisiveAttempt kind n o + 1

/-! ## One attempt at a time -/

section Unfold

variable {kind : ActionKind} {n : Nat} {c : Nat → Except Fault Unit} {o : Nat → Except Fault β}
  {env : Interference}

theorem decisiveAttempt_zero : decisiveAttempt kind 0 o = 0 := rfl

theorem decisiveAttempt_succ :
    decisiveAttempt kind (n + 1) o =
      if kind.settles (o 0) then 0 else decisiveAttempt kind n (fun j => o (j + 1)) + 1 := by
  unfold decisiveAttempt
  rw [List.range_succ_eq_map, List.find?_cons]
  split
  · simp_all
  · simp_all [Function.comp_def]

theorem decisiveAttempt_le : decisiveAttempt kind n o ≤ n := by
  induction n generalizing o with
  | zero => exact Nat.le_refl 0
  | succ n ih =>
    rw [decisiveAttempt_succ]
    split
    · exact Nat.zero_le _
    · exact Nat.succ_le_succ ih

theorem interruptionAt_succ (i j : Nat) :
    interruptionAt env c (i + 1) (j + 1) = interruptionAt env.shift (fun j => c (j + 1)) i j := by
  cases hc : c (j + 1) <;> simp [interruptionAt, Interference.shift, hc]

/-- A run decided at its first attempt is interrupted only there, and not by cancellation. -/
theorem firstInterruption_zero :
    firstInterruption env c 0 =
      if env.closedAt 0 then some (0, .closed)
      else match c 0 with
        | .error e => some (0, .refused e)
        | .ok () => none := by
  cases hc : c 0 <;> by_cases h0 : env.closedAt 0 <;>
    simp [firstInterruption, interruptionAt, hc, h0]

theorem firstInterruption_succ (i : Nat) :
    firstInterruption env c (i + 1) =
      match interruptionAt env c (i + 1) 0 with
      | some x => some (0, x)
      | none => (firstInterruption env.shift (fun j => c (j + 1)) i).map
          fun (j, x) => (j + 1, x) := by
  rw [firstInterruption, List.range_succ_eq_map, List.findSome?_cons, List.findSome?_map,
    firstInterruption, List.map_findSome?]
  cases interruptionAt env c (i + 1) 0 <;>
    simp [Function.comp_def, interruptionAt_succ, Option.map_map]

/-- The first interruption of a run with a retry left: at its first attempt, or, when the
outcome there neither settles the run nor is followed by a cancelled sleep, one of the rest of
the run, one retry fewer. -/
theorem firstInterruption_decisive_succ :
    firstInterruption env c (decisiveAttempt kind (n + 1) o) =
      if env.closedAt 0 then some (0, .closed)
      else match c 0 with
        | .error e => some (0, .refused e)
        | .ok () =>
          if kind.settles (o 0) then none
          else if env.cancelledAfter 0 then some (0, .cancelled)
          else (firstInterruption env.shift (fun j => c (j + 1))
            (decisiveAttempt kind n fun j => o (j + 1))).map fun (j, x) => (j + 1, x) := by
  rw [decisiveAttempt_succ]
  by_cases hs : kind.settles (o 0)
  · simp only [hs, if_true, firstInterruption_zero]
  · simp only [hs, Bool.false_eq_true, if_false, firstInterruption_succ]
    cases hc : c 0 <;> by_cases h0 : env.closedAt 0 <;> by_cases h1 : env.cancelledAfter 0 <;>
      simp [interruptionAt, hc, h0, h1]

/-- A run with no retry left answers at its first attempt. -/
theorem runAnswer_zero :
    runAnswer kind 0 c o env =
      if env.closedAt 0 then .ok none
      else match c 0 with
        | .error e => .error e
        | .ok () => decisiveAnswer kind (o 0) := by
  unfold runAnswer
  rw [decisiveAttempt_zero, firstInterruption_zero]
  cases c 0 <;> by_cases h0 : env.closedAt 0 <;> simp [h0]

/-- A run with a retry left answers at its first attempt unless the outcome there is a
retryable fault that is not acceptable; then, unless the scope is cancelled in the sleep, it
answers as the rest of the run, one retry fewer. -/
theorem runAnswer_succ :
    runAnswer kind (n + 1) c o env =
      if env.closedAt 0 then .ok none
      else match c 0 with
        | .error e => .error e
        | .ok () =>
          if kind.settles (o 0) then decisiveAnswer kind (o 0)
          else if env.cancelledAfter 0 then .ok none
          else runAnswer kind n (fun j => c (j + 1)) (fun j => o (j + 1)) env.shift := by
  unfold runAnswer
  rw [firstInterruption_decisive_succ]
  cases c 0 <;> by_cases h0 : env.closedAt 0 <;> by_cases hs : kind.settles (o 0) <;>
    by_cases h1 : env.cancelledAfter 0 <;> simp [h0, hs, h1, decisiveAttempt_succ]
  cases firstInterruption env.shift (fun j => c (j + 1))
    (decisiveAttempt kind n fun j => o (j + 1)) with
  | none => rfl
  | some p => obtain ⟨j, x⟩ := p; cases x <;> rfl

theorem runCalls_zero :
    runCalls kind 0 c o env =
      if env.closedAt 0 then 0
      else match c 0 with
        | .error _ => 0
        | .ok () => 1 := by
  unfold runCalls
  rw [decisiveAttempt_zero, firstInterruption_zero]
  cases c 0 <;> by_cases h0 : env.closedAt 0 <;> simp [h0]

theorem runCalls_succ :
    runCalls kind (n + 1) c o env =
      if env.closedAt 0 then 0
      else match c 0 with
        | .error _ => 0
        | .ok () =>
          if kind.settles (o 0) || env.cancelledAfter 0 then 1
          else runCalls kind n (fun j => c (j + 1)) (fun j => o (j + 1)) env.shift + 1 := by
  unfold runCalls
  rw [firstInterruption_decisive_succ]
  cases c 0 <;> by_cases h0 : env.closedAt 0 <;> by_cases hs : kind.settles (o 0) <;>
    by_cases h1 : env.cancelledAfter 0 <;> simp [h0, hs, h1, decisiveAttempt_succ]
  cases firstInterruption env.shift (fun j => c (j + 1))
    (decisiveAttempt kind n fun j => o (j + 1)) with
  | none => rfl
  | some p => obtain ⟨j, x⟩ := p; cases x <;> rfl

theorem runChecks_zero : runChecks kind 0 c o env = if env.closedAt 0 then 0 else 1 := by
  unfold runChecks
  rw [decisiveAttempt_zero, firstInterruption_zero]
  cases c 0 <;> by_cases h0 : env.closedAt 0 <;> simp [h0]

theorem runChecks_succ :
    runChecks kind (n + 1) c o env =
      if env.closedAt 0 then 0
      else match c 0 with
        | .error _ => 1
        | .ok () =>
          if kind.settles (o 0) || env.cancelledAfter 0 then 1
          else runChecks kind n (fun j => c (j + 1)) (fun j => o (j + 1)) env.shift + 1 := by
  unfold runChecks
  rw [firstInterruption_decisive_succ]
  cases c 0 <;> by_cases h0 : env.closedAt 0 <;> by_cases hs : kind.settles (o 0) <;>
    by_cases h1 : env.cancelledAfter 0 <;> simp [h0, hs, h1, decisiveAttempt_succ]
  cases firstInterruption env.shift (fun j => c (j + 1))
    (decisiveAttempt kind n fun j => o (j + 1)) with
  | none => rfl
  | some p => obtain ⟨j, x⟩ := p; cases x <;> rfl

/-- The action runs at most once more than there are retries. -/
theorem runCalls_le : runCalls kind n c o env ≤ n + 1 := by
  induction n generalizing c o env with
  | zero =>
    rw [runCalls_zero]
    split
    · exact Nat.zero_le _
    · split <;> simp
  | succ n ih =>
    rw [runCalls_succ]
    split
    · exact Nat.zero_le _
    · split
      · exact Nat.zero_le _
      · split
        · omega
        · exact Nat.succ_le_succ ih

/-! ## The runs some interference allows -/

/-- With no retry left, the environment chooses between a closed session and the first
attempt, where the pre-check or else the outcome answers. The answer comes with the number of
calls of the action and of the pre-check. -/
theorem exists_run_zero_iff (Q : Except Fault (Option β) → Nat → Nat → Prop) :
    (∃ env, Q (runAnswer kind 0 c o env) (runCalls kind 0 c o env) (runChecks kind 0 c o env)) ↔
      Q (.ok none) 0 0 ∨ (∃ e, c 0 = .error e ∧ Q (.error e) 0 1) ∨
        (c 0 = .ok () ∧ Q (decisiveAnswer kind (o 0)) 1 1) := by
  rw [Interference.exists_cons_iff]
  simp only [runAnswer_zero, runCalls_zero, runChecks_zero, Interference.cons_closedAt_zero]
  cases c 0 <;> simp [Bool.exists_bool, or_comm]

/-- With a retry left, an outcome that does not settle the run is followed either by a
cancelled sleep or by the rest of the run, one retry fewer. -/
theorem exists_run_succ_iff (Q : Except Fault (Option β) → Nat → Nat → Prop) :
    (∃ env, Q (runAnswer kind (n + 1) c o env) (runCalls kind (n + 1) c o env)
        (runChecks kind (n + 1) c o env)) ↔
      Q (.ok none) 0 0 ∨ (∃ e, c 0 = .error e ∧ Q (.error e) 0 1) ∨
        (c 0 = .ok () ∧
          if kind.settles (o 0) then Q (decisiveAnswer kind (o 0)) 1 1
          else Q (.ok none) 1 1 ∨
            ∃ env, Q (runAnswer kind n (fun j => c (j + 1)) (fun j => o (j + 1)) env)
              (runCalls kind n (fun j => c (j + 1)) (fun j => o (j + 1)) env + 1)
              (runChecks kind n (fun j => c (j + 1)) (fun j => o (j + 1)) env + 1)) := by
  rw [Interference.exists_cons_iff]
  simp only [runAnswer_succ, runCalls_succ, runChecks_succ, Interference.cons_closedAt_zero,
    Interference.cons_cancelledAfter_zero, Interference.shift_cons]
  cases c 0 <;> by_cases hs : kind.settles (o 0) <;> simp [Bool.exists_bool, hs, or_comm]

end Unfold

end BrokerSession
