import BrokerSession.Proofs.Session.Consume
import BrokerSession.Proofs.Session.Precheck
import BrokerSession.Proofs.Backoff.Calls

/-!
# The shared delay across one retried run

Within one run of the retry loop whose backoff nothing else touches, the loop is the only
caller of the backoff: a wrong-state fault grows the delay and is counted, a retry grows the
delay once more and sleeps the grown delay, and the run ends by bringing the delay back to its
base when the action's value or its failure answers (the value of a connecting action
excepted). `runSteps` lists these steps for given outcomes and interference, in the shape of
the loop: `retrySteps`, `attemptSteps` and `roundSteps` follow its functions.

The environment lets time pass, never back, and may close the session or cancel its scope, but
touches neither the backoff nor the counts of calls of the action and the pre-check
(`Unshared`). The loop runs as the scheduler runs it: nothing else moves between two park
points (`Finishes`). `finishes_retry_ran` says that every finished run makes exactly the calls
of its steps on the backoff and sleeps each retry's delay to its end unless the scope was
cancelled during it; `finishes_retry_calm` builds the run that nothing disturbs, which sleeps
exactly those delays.

With the step of every increase fixed, `retry_backoff_delays` reads the numbers off the steps:
the sleep before the `j`th retry lasts `min (c0 + (j + w_j) * step) cap`, where `c0` is the
delay on entry and `w_j` counts the wrong-state faults among the first `j` outcomes; the run
ends with the delay at its base when it answers a value (not connecting) or the failure of its
decisive attempt, and at its last grown value otherwise; the wrong-state count grows by the
wrong-state faults met that the action may not ignore.
-/

namespace BrokerSession

/-- The part of the world a retried run keeps to itself: the calls of its action and of its
pre-check, and the shared backoff. -/
def World.retryView (w : World) : Nat × Nat × Backoff := (w.calls, w.checks, w.backoff)

/-! ## The steps of a run on the backoff -/

variable {β : Type}

/-- The outcome is a fault with the wrong-state code. -/
def stateCoded : Except Fault β → Bool
  | .ok _ => false
  | .error e => e.isWrongState

/-- How many of the first `j` outcomes are wrong-state faults. -/
def stateFaultsAmong (o : Nat → Except Fault β) (j : Nat) : Nat :=
  (List.range j).countP fun i => stateCoded (o i)

/-- The outcome is a wrong-state fault that an action of `kind` may not ignore. -/
def ActionKind.countsInvalid (kind : ActionKind) : Except Fault β → Bool
  | .ok _ => false
  | .error e => e.isWrongState && !e.isOkay kind

/-- The decisive outcome brings the backoff back to its base: a value, unless connecting, or a
fault the action may not ignore. -/
def ActionKind.resetsOn (kind : ActionKind) : Except Fault β → Bool
  | .ok _ => kind != .connect
  | .error e => !e.isOkay kind

/-- What a moment of a run does to the shared backoff. -/
inductive RetryStep where
  /-- a wrong-state fault: the delay grows and one more wrong state is counted -/
  | wrongState
  /-- a retry: the delay grows and the loop sleeps it, to its end when `completed` -/
  | retry (completed : Bool)
  /-- the end of the run, bringing the delay back to its base -/
  | reset
  deriving DecidableEq, Repr

namespace RetryStep

/-- The backoff's calls of a step, every increase drawing the factor `f`. -/
def calls (f : Binary64) : RetryStep → List Backoff.Call
  | .wrongState => [.increase f, .recordInvalid]
  | .retry _ => [.increase f]
  | .reset => [.reset]

/-- The step grows the delay. -/
def grows : RetryStep → Bool
  | .reset => false
  | _ => true

end RetryStep

/-- The delay after `g` growths by `st` from `c0`, held at `cap`. -/
def grownDelay (c0 st cap g : Nat) : Nat := min (c0 + g * st) cap

/-- The growth counts of the delays slept to their ends, `g` growths having come before. -/
def sleepGrowths : Nat → List RetryStep → List Nat
  | _, [] => []
  | g, .wrongState :: r => sleepGrowths (g + 1) r
  | g, .retry true :: r => (g + 1) :: sleepGrowths (g + 1) r
  | g, .retry false :: r => sleepGrowths (g + 1) r
  | g, .reset :: r => sleepGrowths g r

/-- The delay the steps leave, `g` growths having come before: the base after a reset. -/
def finalDelay (base c0 st cap : Nat) : Nat → List RetryStep → Nat
  | g, [] => grownDelay c0 st cap g
  | g, .wrongState :: r => finalDelay base c0 st cap (g + 1) r
  | g, .retry _ :: r => finalDelay base c0 st cap (g + 1) r
  | _, .reset :: _ => base

/-- The end of a failed attempt: a retry, its sleep cut short when `cancelled`, before the
rest of the run; or, when none is taken, a reset. -/
def retrySteps (retry cancelled : Bool) (rest : List RetryStep) : List RetryStep :=
  if retry then .retry (!cancelled) :: if cancelled then [] else rest else [.reset]

/-- The steps of an attempt with outcome `out`. -/
def attemptSteps (kind : ActionKind) (canRetry : Bool) (out : Except Fault β) (cancelled : Bool)
    (rest : List RetryStep) : List RetryStep :=
  match out with
  | .ok _ => if kind != .connect then [.reset] else []
  | .error e =>
    if e.isOkay kind then []
    else (if e.isWrongState then [.wrongState] else []) ++
      retrySteps (e.isRetryable && canRetry) cancelled rest

/-- The steps of a round: none when the session is closed or the pre-check fails. -/
def roundSteps (kind : ActionKind) (canRetry closed : Bool) (check : Except Fault Unit)
    (out : Except Fault β) (cancelled : Bool) (rest : List RetryStep) : List RetryStep :=
  if closed then []
  else match check with
    | .error _ => []
    | .ok () => attemptSteps kind canRetry out cancelled rest

/-- The steps of a run of `kind` with `n` retries, pre-check answers `c`, outcomes `o` and
interference `env`. -/
def runSteps (kind : ActionKind) : Nat → (Nat → Except Fault Unit) → (Nat → Except Fault β) →
    Interference → List RetryStep
  | 0, c, o, env => roundSteps kind false (env.closedAt 0) (c 0) (o 0) (env.cancelledAfter 0) []
  | n + 1, c, o, env => roundSteps kind true (env.closedAt 0) (c 0) (o 0) (env.cancelledAfter 0)
      (runSteps kind n (fun j => c (j + 1)) (fun j => o (j + 1)) env.shift)

/-- The round goes on to a retry: the session is open, the pre-check passes, the outcome
does not settle the run, a retry is left and the sleep is not cut short. -/
def goesOn (kind : ActionKind) (canRetry closed : Bool) (check : Except Fault Unit)
    (out : Except Fault β) (cancelled : Bool) : Bool :=
  !closed && check.isOk && !kind.settles out && canRetry && !cancelled

/-- A round that stops resets the backoff: the session is open, the pre-check passes, and the
outcome answers and resets. -/
def roundResets (kind : ActionKind) (canRetry closed : Bool) (check : Except Fault Unit)
    (out : Except Fault β) : Bool :=
  !closed && check.isOk && (kind.settles out || !canRetry) && kind.resetsOn out

/-- The answer of an attempt with outcome `out`, `rest` being that of the remaining run. -/
def attemptAnswer (kind : ActionKind) (canRetry : Bool) (out : Except Fault β) (cancelled : Bool)
    (rest : Except Fault (Option β)) : Except Fault (Option β) :=
  if kind.settles out || !canRetry then decisiveAnswer kind out
  else if cancelled then .ok none else rest

/-- The answer of a round. -/
def roundAnswer (kind : ActionKind) (canRetry closed : Bool) (check : Except Fault Unit)
    (out : Except Fault β) (cancelled : Bool) (rest : Except Fault (Option β)) :
    Except Fault (Option β) :=
  if closed then .ok none
  else match check with
    | .error e => .error e
    | .ok () => attemptAnswer kind canRetry out cancelled rest

/-- The retries a run takes: the attempt at which it stops. -/
def retriesTaken (kind : ActionKind) (n : Nat) (c : Nat → Except Fault Unit)
    (o : Nat → Except Fault β) (env : Interference) : Nat :=
  match firstInterruption env c (decisiveAttempt kind n o) with
  | some (j, _) => j
  | none => decisiveAttempt kind n o

/-- The run ends by resetting the backoff: its decisive outcome answers, and resets. -/
def resetsBackoff (kind : ActionKind) (n : Nat) (c : Nat → Except Fault Unit)
    (o : Nat → Except Fault β) (env : Interference) : Bool :=
  (firstInterruption env c (decisiveAttempt kind n o)).isNone &&
    kind.resetsOn (o (decisiveAttempt kind n o))

/-- The delays slept to their ends before the retries `1, …, k` of a run whose delay grows by
`st` from `c0` up to `cap`: before the `j`th, the delay has grown once for each retry so far
and once for each wrong-state fault among the first `j` outcomes. -/
def retryDelays (c0 st cap : Nat) (o : Nat → Except Fault β) (k : Nat) : List Span :=
  (List.range' 1 k).map fun j => ⟨grownDelay c0 st cap (j + stateFaultsAmong o j)⟩

/-! ### One round at a time -/

theorem stateFaultsAmong_succ (o : Nat → Except Fault β) (j : Nat) :
    stateFaultsAmong o (j + 1) =
      (if stateCoded (o 0) then 1 else 0) + stateFaultsAmong (fun i => o (i + 1)) j := by
  simp only [stateFaultsAmong, List.range_succ_eq_map, List.countP_cons, List.countP_map,
    Function.comp_def, Nat.succ_eq_add_one]
  omega

section Rounds

variable {kind : ActionKind} {canRetry closed cancelled : Bool} {check : Except Fault Unit}
  {out : Except Fault β} {rest : List RetryStep}

theorem settles_eq_false (h : kind.settles out = false) :
    ∃ e, out = .error e ∧ e.isOkay kind = false ∧ e.isRetryable = true := by
  cases out with
  | ok v => simp [ActionKind.settles] at h
  | error e =>
    simp only [ActionKind.settles, Bool.or_eq_false_iff, Bool.not_eq_false'] at h
    exact ⟨e, rfl, h⟩

/-- A wrong-state fault that does not settle the run is one the loop counts. -/
theorem countsInvalid_of_settles_eq_false (h : kind.settles out = false) :
    kind.countsInvalid out = stateCoded out := by
  obtain ⟨e, rfl, hok, -⟩ := settles_eq_false h
  simp [ActionKind.countsInvalid, stateCoded, hok]

/-- A round that goes on: the wrong-state mark of its fault, then a retry slept to its end. -/
theorem roundSteps_of_goesOn (h : goesOn kind canRetry closed check out cancelled = true) :
    roundSteps kind canRetry closed check out cancelled rest =
      (if stateCoded out then [.wrongState] else []) ++ .retry true :: rest := by
  simp only [goesOn, Bool.and_eq_true, Bool.not_eq_true'] at h
  obtain ⟨⟨⟨⟨hc, hk⟩, hs⟩, hr⟩, hx⟩ := h
  obtain ⟨e, rfl, hok, hret⟩ := settles_eq_false hs
  cases check with
  | error => simp [Except.isOk, Except.toBool] at hk
  | ok u =>
    simp [roundSteps, attemptSteps, retrySteps, stateCoded, hc, hok, hret, hr, hx]
    rfl

/-! The three readings of a round's steps below are checked over the whole table of its
inputs: the session, the pre-check, the outcome's class, the retry left and the sleep. -/

theorem sleepGrowths_roundSteps (g : Nat) :
    sleepGrowths g (roundSteps kind canRetry closed check out cancelled rest) =
      if goesOn kind canRetry closed check out cancelled then
        (g + 1 + if stateCoded out then 1 else 0) ::
          sleepGrowths (g + 1 + if stateCoded out then 1 else 0) rest
      else [] := by
  cases closed <;> cases check <;> cases out <;> cases canRetry <;> cases cancelled <;>
    simp [roundSteps, attemptSteps, retrySteps, goesOn, ActionKind.settles, sleepGrowths,
      stateCoded, Except.isOk, Except.toBool] <;>
    split_ifs <;> simp_all [sleepGrowths]

theorem finalDelay_roundSteps (base c0 st cap g : Nat) :
    finalDelay base c0 st cap g (roundSteps kind canRetry closed check out cancelled rest) =
      if goesOn kind canRetry closed check out cancelled then
        finalDelay base c0 st cap (g + 1 + if stateCoded out then 1 else 0) rest
      else if roundResets kind canRetry closed check out then base
      else grownDelay c0 st cap
        (g + (roundSteps kind canRetry closed check out cancelled rest).countP RetryStep.grows) := by
  cases closed <;> cases check <;> cases out <;> cases canRetry <;> cases cancelled <;>
    simp [roundSteps, attemptSteps, retrySteps, goesOn, roundResets, ActionKind.settles,
      ActionKind.resetsOn, finalDelay, stateCoded, Except.isOk, Except.toBool] <;>
    split_ifs <;> simp_all [finalDelay, RetryStep.grows, List.countP_cons, Nat.add_assoc]

theorem count_roundSteps :
    (roundSteps kind canRetry closed check out cancelled rest).count .wrongState =
      if goesOn kind canRetry closed check out cancelled then
        (if stateCoded out then 1 else 0) + rest.count .wrongState
      else if !closed && check.isOk then (if kind.countsInvalid out then 1 else 0) else 0 := by
  cases closed <;> cases check <;> cases out <;> cases canRetry <;> cases cancelled <;>
    simp [roundSteps, attemptSteps, retrySteps, goesOn, ActionKind.settles,
      ActionKind.countsInvalid, stateCoded, Except.isOk, Except.toBool] <;>
    split_ifs <;> simp_all [Nat.add_comm]

theorem countP_grows_roundSteps_of_goesOn
    (h : goesOn kind canRetry closed check out cancelled = true) :
    (roundSteps kind canRetry closed check out cancelled rest).countP RetryStep.grows =
      (if stateCoded out then 1 else 0) + 1 + rest.countP RetryStep.grows := by
  rw [roundSteps_of_goesOn h]
  cases stateCoded out <;> simp [List.countP_cons, RetryStep.grows] <;> omega

end Rounds

/-! ### The whole run -/

section Runs

variable {kind : ActionKind} {n : Nat} {c : Nat → Except Fault Unit} {o : Nat → Except Fault β}
  {env : Interference}

theorem goesOn_false_eq_false {closed cancelled : Bool} {check : Except Fault Unit}
    {out : Except Fault β} : goesOn kind false closed check out cancelled = false := by
  simp [goesOn]

theorem retriesTaken_zero : retriesTaken kind 0 c o env = 0 := by
  unfold retriesTaken
  rw [decisiveAttempt_zero, firstInterruption_zero]
  cases c 0 <;> by_cases h0 : env.closedAt 0 <;> simp [h0]

theorem retriesTaken_succ :
    retriesTaken kind (n + 1) c o env =
      if goesOn kind true (env.closedAt 0) (c 0) (o 0) (env.cancelledAfter 0) then
        retriesTaken kind n (fun j => c (j + 1)) (fun j => o (j + 1)) env.shift + 1
      else 0 := by
  unfold retriesTaken
  rw [firstInterruption_decisive_succ]
  cases c 0 <;> by_cases h0 : env.closedAt 0 <;> by_cases hs : kind.settles (o 0) <;>
    by_cases h1 : env.cancelledAfter 0 <;>
    simp [h0, hs, h1, goesOn, decisiveAttempt_succ, Except.isOk, Except.toBool]
  cases firstInterruption env.shift (fun j => c (j + 1))
    (decisiveAttempt kind n fun j => o (j + 1)) with
  | none => rfl
  | some p => rfl

theorem resetsBackoff_zero :
    resetsBackoff kind 0 c o env = roundResets kind false (env.closedAt 0) (c 0) (o 0) := by
  unfold resetsBackoff
  rw [decisiveAttempt_zero, firstInterruption_zero]
  cases c 0 <;> by_cases h0 : env.closedAt 0 <;>
    simp [h0, roundResets, Except.isOk, Except.toBool]

theorem resetsBackoff_succ :
    resetsBackoff kind (n + 1) c o env =
      if goesOn kind true (env.closedAt 0) (c 0) (o 0) (env.cancelledAfter 0) then
        resetsBackoff kind n (fun j => c (j + 1)) (fun j => o (j + 1)) env.shift
      else roundResets kind true (env.closedAt 0) (c 0) (o 0) := by
  unfold resetsBackoff
  rw [firstInterruption_decisive_succ]
  cases c 0 <;> by_cases h0 : env.closedAt 0 <;> by_cases hs : kind.settles (o 0) <;>
    by_cases h1 : env.cancelledAfter 0 <;>
    simp [h0, hs, h1, goesOn, roundResets, decisiveAttempt_succ, Except.isOk, Except.toBool]

/-- A run resets the backoff exactly when it answers a value of an action that does not
connect, or the failure of its decisive attempt with a fault the action may not ignore. -/
theorem resetsBackoff_iff :
    resetsBackoff kind n c o env = true ↔
      ((∃ v, runAnswer kind n c o env = .ok (some v)) ∧ kind ≠ .connect) ∨
      (firstInterruption env c (decisiveAttempt kind n o) = none ∧
        ∃ e, o (decisiveAttempt kind n o) = .error e ∧ e.isOkay kind = false) := by
  unfold resetsBackoff runAnswer
  cases firstInterruption env c (decisiveAttempt kind n o) with
  | none =>
    cases o (decisiveAttempt kind n o) with
    | ok v => simp [ActionKind.resetsOn, decisiveAnswer]
    | error e => cases hk : e.isOkay kind <;> simp [ActionKind.resetsOn, decisiveAnswer, hk]
  | some p =>
    obtain ⟨j, x⟩ := p
    cases x <;> simp

theorem runCalls_succ_goesOn :
    runCalls kind (n + 1) c o env =
      if goesOn kind true (env.closedAt 0) (c 0) (o 0) (env.cancelledAfter 0) then
        runCalls kind n (fun j => c (j + 1)) (fun j => o (j + 1)) env.shift + 1
      else if !env.closedAt 0 && (c 0).isOk then 1 else 0 := by
  rw [runCalls_succ]
  cases c 0 <;> by_cases h0 : env.closedAt 0 <;> by_cases hs : kind.settles (o 0) <;>
    by_cases h1 : env.cancelledAfter 0 <;> simp [h0, hs, h1, goesOn, Except.isOk, Except.toBool]

theorem runAnswer_zero_eq :
    runAnswer kind 0 c o env =
      roundAnswer kind false (env.closedAt 0) (c 0) (o 0) (env.cancelledAfter 0) (.ok none) := by
  rw [runAnswer_zero]
  unfold roundAnswer attemptAnswer
  cases c 0 <;> simp

theorem runAnswer_succ_eq :
    runAnswer kind (n + 1) c o env =
      roundAnswer kind true (env.closedAt 0) (c 0) (o 0) (env.cancelledAfter 0)
        (runAnswer kind n (fun j => c (j + 1)) (fun j => o (j + 1)) env.shift) := by
  rw [runAnswer_succ]
  unfold roundAnswer attemptAnswer
  cases c 0 <;> simp

theorem sleepGrowths_add (g : Nat) (steps : List RetryStep) :
    sleepGrowths g steps = (sleepGrowths 0 steps).map (· + g) := by
  induction steps generalizing g with
  | nil => rfl
  | cons a r ih =>
    -- every step but a reset adds one growth before the rest
    have grown : sleepGrowths (g + 1) r = (sleepGrowths 1 r).map (· + g) := by
      rw [ih (g + 1), ih 1, List.map_map]
      congr 1
      funext x
      simp only [Function.comp_apply]
      omega
    rcases a with _ | ⟨_ | _⟩ | _
    · exact grown
    · exact grown
    · simp [sleepGrowths, grown, Nat.add_comm]
    · exact ih g

/-- The completed sleeps of a run: before its `j`th retry the delay has grown `j` times, and
once more for each wrong-state fault among the first `j` outcomes. -/
theorem sleepGrowths_runSteps :
    sleepGrowths 0 (runSteps kind n c o env) =
      (List.range' 1 (retriesTaken kind n c o env)).map fun j => j + stateFaultsAmong o j := by
  induction n generalizing c o env with
  | zero => simp [runSteps, sleepGrowths_roundSteps, goesOn_false_eq_false, retriesTaken_zero]
  | succ n ih =>
    rw [runSteps, sleepGrowths_roundSteps, retriesTaken_succ]
    split
    · rw [sleepGrowths_add, ih, List.range'_succ, List.map_cons, List.map_map,
        ← List.map_add_range', List.map_map]
      congr 1
      · simp [stateFaultsAmong]
      · congr 1
        funext j
        simp only [Function.comp_apply]
        rw [Nat.add_comm 1 j, stateFaultsAmong_succ]
        omega
    · rfl

/-- The delay a run leaves: the base when it resets, and otherwise the delay grown once for
each of its growing steps. -/
theorem finalDelay_runSteps (base c0 st cap g : Nat) :
    finalDelay base c0 st cap g (runSteps kind n c o env) =
      if resetsBackoff kind n c o env then base
      else grownDelay c0 st cap (g + (runSteps kind n c o env).countP RetryStep.grows) := by
  induction n generalizing g c o env with
  | zero => simp [runSteps, finalDelay_roundSteps, resetsBackoff_zero, goesOn_false_eq_false]
  | succ n ih =>
    rw [runSteps, finalDelay_roundSteps, resetsBackoff_succ]
    split
    · rename_i hgo
      rw [ih, countP_grows_roundSteps_of_goesOn hgo]
      split
      · rfl
      · congr 1
        omega
    · rfl

theorem settles_of_goesOn {canRetry closed cancelled : Bool} {check : Except Fault Unit}
    {out : Except Fault β} (h : goesOn kind canRetry closed check out cancelled = true) :
    kind.settles out = false := by
  simp only [goesOn, Bool.and_eq_true, Bool.not_eq_true'] at h
  exact h.1.1.2

/-- The wrong-state faults a run counts are those among the outcomes of its calls that an
action of its kind may not ignore. -/
theorem count_runSteps :
    (runSteps kind n c o env).count .wrongState =
      (List.range (runCalls kind n c o env)).countP fun i => kind.countsInvalid (o i) := by
  induction n generalizing c o env with
  | zero =>
    rw [runSteps, count_roundSteps, runCalls_zero]
    cases c 0 <;> by_cases h0 : env.closedAt 0 <;>
      simp [h0, goesOn_false_eq_false, Except.isOk, Except.toBool]
  | succ n ih =>
    rw [runSteps, count_roundSteps, runCalls_succ_goesOn]
    split
    · rename_i hgo
      rw [ih, List.range_succ_eq_map, List.countP_cons, List.countP_map,
        countsInvalid_of_settles_eq_false (settles_of_goesOn hgo)]
      simp only [Function.comp_def, Nat.succ_eq_add_one]
      omega
    · split <;> simp

end Runs

/-! ## The backoff along a run -/

/-- The time, in milliseconds, of sleeping to their ends the delays of growth counts `gs`. -/
def sleepTime (c0 st cap : Nat) (gs : List Nat) : Nat :=
  (gs.map fun g => (Span.mk (grownDelay c0 st cap g)).millisCeil).sum

@[simp] theorem sleepTime_nil (c0 st cap : Nat) : sleepTime c0 st cap [] = 0 := rfl

@[simp] theorem sleepTime_cons (c0 st cap g : Nat) (gs : List Nat) :
    sleepTime c0 st cap (g :: gs) =
      (Span.mk (grownDelay c0 st cap g)).millisCeil + sleepTime c0 st cap gs := by
  simp [sleepTime]

namespace Backoff

/-- The backoff keeps the settings `S`, and its delay has grown `g` times by `sp` from `c0`. -/
structure GrownFrom (S : BackoffSettings) (c0 : Nat) (sp : Span) (g : Nat) (b : Backoff) :
    Prop where
  settings : b.settings = S
  current : b.current.nanos = grownDelay c0 sp.nanos S.cap.nanos g

section Grown

variable {S : BackoffSettings} {c0 g : Nat} {sp : Span} {b b' : Backoff}

theorem applyAll_cons {c : Call} {cs : List Call} (h : c.apply b = .ok b') :
    applyAll (c :: cs) b = applyAll cs b' := by
  simp only [applyAll, List.foldlM_cons, h]
  rfl

/-- An increase grows the delay once more, by the step its settings give, and answers the new
delay. -/
theorem GrownFrom.increase (hsp : S.base.scale (Binary64.ofNat S.jitterMin) = .ok sp)
    (hg : GrownFrom S c0 sp g b) {d : Span} (h : b.increase = .ok (d, b')) :
    d = b'.current ∧ Call.apply (.increase (Binary64.ofNat S.jitterMin)) b = .ok b' ∧
      GrownFrom S c0 sp (g + 1) b' ∧ b'.invalidCount = b.invalidCount := by
  rw [Backoff.increase, factor, hg.settings] at h
  obtain ⟨st, hst, hd, rfl⟩ := growBy_eq_ok h
  rw [hg.settings, hsp] at hst
  cases hst
  refine ⟨rfl, by rw [Call.apply, h]; rfl, ⟨hg.settings, ?_⟩, rfl⟩
  rw [hd, hg.current, hg.settings, grownDelay, grownDelay, min_add_min, Nat.succ_mul,
    Nat.add_assoc]

/-- Within the cap, and with a step that leaves room below the largest span, an increase
always succeeds. -/
theorem GrownFrom.increase_ok (hsp : S.base.scale (Binary64.ofNat S.jitterMin) = .ok sp)
    (hg : GrownFrom S c0 sp g b) (hsum : S.cap.nanos + sp.nanos < Span.limit) :
    ∃ d b', b.increase = .ok (d, b') := by
  have hle : b.current.nanos ≤ S.cap.nanos := by
    rw [hg.current, grownDelay]
    exact Nat.min_le_right _ _
  have hadd : b.current.add sp = .ok ⟨b.current.nanos + sp.nanos⟩ := by
    rw [Span.add, if_pos (by omega)]
  rw [Backoff.increase, growBy, factor, hg.settings, hsp]
  simp only [bind, Except.bind, hadd]
  exact ⟨_, _, rfl⟩

theorem recordInvalid_of_lt (h : b.invalidCount < countLimit) :
    b.recordInvalid = .ok (b.invalidCount + 1, { b with invalidCount := b.invalidCount + 1 }) := by
  rw [recordInvalid, if_pos h]

theorem GrownFrom.recordInvalid (hg : GrownFrom S c0 sp g b) {k : Nat}
    (h : b.recordInvalid = .ok (k, b')) :
    Call.apply .recordInvalid b = .ok b' ∧ GrownFrom S c0 sp g b' ∧
      b'.invalidCount = b.invalidCount + 1 := by
  have hb := recordInvalid_eq_ok h
  subst hb
  exact ⟨by rw [Call.apply, h]; rfl, ⟨hg.settings, hg.current⟩, rfl⟩

end Grown

end Backoff

/-- A run from `t`, `s` to `t'`, `s'`, entered with the delay grown `g` times: it made on the
backoff the calls of `steps`, slept to their ends the delays `sleepGrowths` counts, and left
the delay and the wrong-state count that `steps` give. -/
structure Ran (S : BackoffSettings) (c0 : Nat) (sp : Span) (g : Nat) (steps : List RetryStep)
    (t : Nat) (s : World) (t' : Nat) (s' : World) : Prop where
  calls : Backoff.applyAll (steps.flatMap (RetryStep.calls (Binary64.ofNat S.jitterMin)))
    s.backoff = .ok s'.backoff
  slept : t + sleepTime c0 sp.nanos S.cap.nanos (sleepGrowths g steps) ≤ t'
  delay : s'.backoff.current.nanos = finalDelay S.base.nanos c0 sp.nanos S.cap.nanos g steps
  counted : s'.backoff.invalidCount = s.backoff.invalidCount + steps.count .wrongState

namespace Ran

variable {S : BackoffSettings} {c0 g : Nat} {sp : Span} {rest : List RetryStep}
  {t t₁ t' : Nat} {s s₁ s' : World} {d : Span} {b : Backoff}

/-- A run that leaves the backoff alone. -/
theorem stop (hg : Backoff.GrownFrom S c0 sp g s.backoff) (hb : s'.backoff = s.backoff)
    (ht : t ≤ t') : Ran S c0 sp g [] t s t' s' where
  calls := by rw [hb]; rfl
  slept := by simpa [sleepTime, sleepGrowths] using ht
  delay := by rw [hb, hg.current]; rfl
  counted := by simp [hb]

/-- A run that ends by bringing the delay back to its base. -/
theorem reset (hg : Backoff.GrownFrom S c0 sp g s.backoff) (hb : s'.backoff = s.backoff.reset)
    (ht : t ≤ t') : Ran S c0 sp g [.reset] t s t' s' where
  calls := by rw [hb]; rfl
  slept := by simpa [sleepTime, sleepGrowths] using ht
  delay := by rw [hb, Backoff.reset, hg.settings]; rfl
  counted := by simp [hb, Backoff.reset]

/-- A wrong-state fault before the rest of the run. -/
theorem wrongState (hsp : S.base.scale (Binary64.ofNat S.jitterMin) = .ok sp)
    (hg : Backoff.GrownFrom S c0 sp g s.backoff) {b₂ : Backoff} {k : Nat}
    (hinc : s.backoff.increase = .ok (d, b)) (hrec : b.recordInvalid = .ok (k, b₂))
    (hb : s₁.backoff = b₂) (hr : Ran S c0 sp (g + 1) rest t s₁ t' s') :
    Ran S c0 sp g (.wrongState :: rest) t s t' s' := by
  obtain ⟨-, hcall, hg₁, hn⟩ := hg.increase hsp hinc
  obtain ⟨hcall₂, -, hn₂⟩ := hg₁.recordInvalid hrec
  refine ⟨?_, hr.slept, hr.delay, ?_⟩
  · simp only [List.flatMap_cons, RetryStep.calls, List.cons_append, List.nil_append]
    rw [Backoff.applyAll_cons hcall, Backoff.applyAll_cons hcall₂, ← hb]
    exact hr.calls
  · rw [hr.counted, hb, hn₂, hn, List.count_cons_self]
    omega

/-- A retry whose sleep ran to its end, before the rest of the run. -/
theorem retried (hsp : S.base.scale (Binary64.ofNat S.jitterMin) = .ok sp)
    (hg : Backoff.GrownFrom S c0 sp g s.backoff) (hinc : s.backoff.increase = .ok (d, b))
    (hb : s₁.backoff = b) (ht : t + d.millisCeil ≤ t₁) (hr : Ran S c0 sp (g + 1) rest t₁ s₁ t' s') :
    Ran S c0 sp g (.retry true :: rest) t s t' s' := by
  obtain ⟨hd, hcall, hg₁, hn⟩ := hg.increase hsp hinc
  refine ⟨?_, ?_, hr.delay, ?_⟩
  · simp only [List.flatMap_cons, RetryStep.calls, List.cons_append, List.nil_append]
    rw [Backoff.applyAll_cons hcall, ← hb]
    exact hr.calls
  · have hms : d.millisCeil = (Span.mk (grownDelay c0 sp.nanos S.cap.nanos (g + 1))).millisCeil := by
      simp only [Span.millisCeil, hd, hg₁.current]
    have := hr.slept
    simp only [sleepGrowths, sleepTime, List.map_cons, List.sum_cons] at this ⊢
    omega
  · simp [hr.counted, hb, hn]

/-- A retry whose sleep the cancelled scope cut short: the run ends there. -/
theorem cut (hsp : S.base.scale (Binary64.ofNat S.jitterMin) = .ok sp)
    (hg : Backoff.GrownFrom S c0 sp g s.backoff) (hinc : s.backoff.increase = .ok (d, b))
    (hb : s'.backoff = b) (ht : t ≤ t') : Ran S c0 sp g [.retry false] t s t' s' := by
  obtain ⟨-, hcall, hg₁, hn⟩ := hg.increase hsp hinc
  refine ⟨?_, by simpa [sleepTime, sleepGrowths] using ht, ?_, by simp [hb, hn]⟩
  · simp only [List.flatMap_cons, List.flatMap_nil, RetryStep.calls, List.cons_append,
      List.nil_append]
    rw [Backoff.applyAll_cons hcall, ← hb]
    rfl
  · rw [hb, hg₁.current]
    rfl

/-- A run depends on its starting world only through the backoff there. -/
theorem of_backoff_eq {steps : List RetryStep} (hr : Ran S c0 sp g steps t s₁ t' s')
    (hb : s₁.backoff = s.backoff) : Ran S c0 sp g steps t s t' s' :=
  ⟨hb ▸ hr.calls, hr.slept, hr.delay, hb ▸ hr.counted⟩

end Ran

namespace Proc

variable {σ ω : Type}

/-- Moves of an environment that lets time pass, never back, and changes the world only in
ways that leave `f` of it as it was. -/
def Advancing (f : σ → ω) : Nat × σ → Nat × σ → Prop := fun x y => x.1 ≤ y.1 ∧ f x.2 = f y.2

theorem moves_advancing {f : σ → ω} {x y : Nat × σ}
    (h : Relation.ReflTransGen (Advancing f) x y) : x.1 ≤ y.1 ∧ f x.2 = f y.2 := by
  induction h with
  | refl => exact ⟨le_rfl, rfl⟩
  | tail _ hr ih => exact ⟨ih.1.trans hr.1, ih.2.trans hr.2⟩

variable {R : Nat × World → Nat × World → Prop} {t t' : Nat} {s s' : World}

/-! ## The backoff's nodes -/

theorem finishes_growBackoff_iff {d : Span} :
    Finishes R t s Act.growBackoff t' s' d ↔
      ∃ b, s.backoff.increase = .ok (d, b) ∧ t' = t ∧ s' = { s with backoff := b } := by
  unfold Act.growBackoff
  rw [finishes_get_bind_iff, finishes_orHalt_bind_iff]
  constructor
  · rintro ⟨⟨d', b⟩, hv, h⟩
    rw [finishes_set_bind_iff, pure_eq, finishes_pure_iff] at h
    obtain ⟨rfl, rfl, rfl⟩ := h
    exact ⟨b, hv, rfl, rfl⟩
  · rintro ⟨b, hv, rfl, rfl⟩
    exact ⟨(d, b), hv, by rw [finishes_set_bind_iff, pure_eq, finishes_pure_iff]; exact ⟨rfl, rfl, rfl⟩⟩

theorem finishes_countWrongState_iff {u : Unit} :
    Finishes R t s Act.countWrongState t' s' u ↔
      ∃ k b, s.backoff.recordInvalid = .ok (k, b) ∧ t' = t ∧ s' = { s with backoff := b } := by
  unfold Act.countWrongState
  rw [finishes_get_bind_iff, finishes_orHalt_bind_iff]
  constructor
  · rintro ⟨⟨k, b⟩, hv, h⟩
    dsimp only [Proc.set] at h
    rw [finishes_put_iff, finishes_pure_iff] at h
    obtain ⟨-, rfl, rfl⟩ := h
    exact ⟨k, b, hv, rfl, rfl⟩
  · rintro ⟨k, b, hv, rfl, rfl⟩
    exact ⟨(k, b), hv, by dsimp only [Proc.set]; rw [finishes_put_iff, finishes_pure_iff]; exact ⟨rfl, rfl, rfl⟩⟩

theorem finishes_resetBackoff_iff {u : Unit} :
    Finishes R t s Act.resetBackoff t' s' u ↔
      t' = t ∧ s' = { s with backoff := s.backoff.reset } := by
  unfold Act.resetBackoff Proc.modify
  rw [finishes_look_iff, finishes_put_iff, finishes_pure_iff]
  exact ⟨fun ⟨_, h⟩ => h, fun h => ⟨rfl, h⟩⟩

/-- A sleep of `d` ends where the scope is cancelled or `d` has passed, and answers whether
the scope was cancelled. -/
theorem finishes_sleepUnlessCancelled {f : World → ω} {d : Span} {c : Bool}
    (h : Finishes (Advancing f) t s (Act.sleepUnlessCancelled d) t' s' c) :
    t ≤ t' ∧ f s' = f s ∧ c = s'.scopeCancelled ∧ (c = true ∨ t + d.millisCeil ≤ t') := by
  unfold Act.sleepUnlessCancelled at h
  rw [finishes_now_bind_iff] at h
  obtain ⟨t₁, s₁, u, hw, h⟩ := finishes_bind_iff.1 h
  obtain ⟨t₂, s₂, hm, hd, hk⟩ := finishes_wait_moves hw
  rw [finishes_pure_iff] at hk
  obtain ⟨-, rfl, rfl⟩ := hk
  rw [Proc.gets, finishes_look_iff, finishes_pure_iff] at h
  obtain ⟨rfl, rfl, rfl⟩ := h
  obtain ⟨ht, hf⟩ := moves_advancing hm
  refine ⟨ht, hf.symm, rfl, ?_⟩
  simp only [Wake.due, Bool.or_eq_true, decide_eq_true_eq] at hd
  exact hd.symm.imp id id


/-- The environment of a run whose backoff and calls nothing else touches: time passes, never
back, and the session may close or the scope be cancelled. -/
abbrev Unshared : Nat × World → Nat × World → Prop := Advancing World.retryView

/-! ## One round -/

section Round

variable {kind : ActionKind} {canRetry : Bool}
  {again : Unit → Act (Except Fault (Option β))} {r : Except Fault (Option β)}
  {S : BackoffSettings} {c0 g : Nat} {sp : Span}
  {restA : Interference → Except Fault (Option β)} {restS : Interference → List RetryStep}

/-- What the rest of a run does, entered with `K` calls of the action and `M` of the pre-check
made: each of its finished runs answers `restA env` and takes the steps `restS env`, for some
interference `env`. -/
def Continues (S : BackoffSettings) (c0 : Nat) (sp : Span) (K M : Nat)
    (again : Unit → Act (Except Fault (Option β))) (t' : Nat) (s' : World)
    (r : Except Fault (Option β)) (restA : Interference → Except Fault (Option β))
    (restS : Interference → List RetryStep) : Prop :=
  ∀ t₁ s₁ g₁, s₁.calls = K → s₁.checks = M → Backoff.GrownFrom S c0 sp g₁ s₁.backoff →
    Finishes Unshared t₁ s₁ (again ()) t' s' r →
      ∃ env, r = restA env ∧ Ran S c0 sp g₁ (restS env) t₁ s₁ t' s'

/-- The answer of an attempt whose fault the action may not ignore. -/
theorem attemptAnswer_error {e : Fault} (hk : e.isOkay kind = false) {cancelled : Bool}
    {rest : Except Fault (Option β)} :
    attemptAnswer kind canRetry (.error e) cancelled rest =
      if e.isRetryable && canRetry then (if cancelled then .ok none else rest)
      else .error (Act.failure kind e.isRetryable e) := by
  cases hr : e.isRetryable <;> cases canRetry <;>
    simp [attemptAnswer, ActionKind.settles, decisiveAnswer, hk, hr, failure_eq_wrap]

variable (hsp : S.base.scale (Binary64.ofNat S.jitterMin) = .ok sp)
include hsp

/-- The end of a failed attempt: a retry, whose sleep runs to its end or is cut short by the
cancelled scope, or the failure after a reset. -/
theorem finishes_retryOrFail_ran (hg : Backoff.GrownFrom S c0 sp g s.backoff) {e : Fault}
    (hagain : canRetry = true → Continues S c0 sp s.calls s.checks again t' s' r restA restS)
    (h : Finishes Unshared t s (Act.retryOrFail kind canRetry again e) t' s' r) :
    ∃ cancelled env,
      r = (if e.isRetryable && canRetry then (if cancelled then .ok none else restA env)
        else .error (Act.failure kind e.isRetryable e)) ∧
      Ran S c0 sp g (retrySteps (e.isRetryable && canRetry) cancelled (restS env)) t s t' s' := by
  unfold Act.retryOrFail at h
  by_cases hc : e.isRetryable && canRetry
  · simp only [hc, if_true] at h ⊢
    obtain ⟨t₁, s₁, d, hgrow, h⟩ := finishes_bind_iff.1 h
    obtain ⟨b, hinc, rfl, rfl⟩ := finishes_growBackoff_iff.1 hgrow
    obtain ⟨t₂, s₂, x, hsleep, h⟩ := finishes_bind_iff.1 h
    obtain ⟨ht, hv, rfl, hx⟩ := finishes_sleepUnlessCancelled hsleep
    -- the sleep leaves the counts and the backoff as the growth left them
    simp only [World.retryView, Prod.mk.injEq] at hv
    obtain ⟨hK, hM, hb⟩ := hv
    obtain ⟨-, -, hg₁, -⟩ := hg.increase hsp hinc
    cases hcan : s₂.scopeCancelled
    · rw [hcan] at h hx
      simp only [Bool.false_eq_true, if_false] at h
      obtain ⟨env, hr, hran⟩ :=
        hagain (Bool.and_eq_true_iff.1 hc).2 t₂ s₂ (g + 1) hK hM (hb ▸ hg₁) h
      exact ⟨false, env, by simpa using hr,
        Ran.retried hsp hg hinc hb (hx.resolve_left Bool.false_ne_true) hran⟩
    · rw [hcan] at h
      simp only [if_true, pure_eq, finishes_pure_iff] at h
      obtain ⟨rfl, rfl, rfl⟩ := h
      exact ⟨true, default, rfl, Ran.cut hsp hg hinc hb ht⟩
  · simp only [hc, Bool.false_eq_true, if_false] at h ⊢
    obtain ⟨t₁, s₁, u, hres, h⟩ := finishes_bind_iff.1 h
    obtain ⟨rfl, rfl⟩ := finishes_resetBackoff_iff.1 hres
    rw [pure_eq, finishes_pure_iff] at h
    obtain ⟨rfl, rfl, rfl⟩ := h
    exact ⟨false, default, rfl, Ran.reset hg rfl le_rfl⟩

/-- A failed attempt: nothing for a fault the action may ignore; otherwise the wrong-state
bookkeeping for a wrong-state fault, and then a retry or the failure. -/
theorem finishes_onFault_ran (hg : Backoff.GrownFrom S c0 sp g s.backoff) {e : Fault}
    (hagain : canRetry = true → Continues S c0 sp s.calls s.checks again t' s' r restA restS)
    (h : Finishes Unshared t s (Act.onFault kind canRetry again e) t' s' r) :
    ∃ cancelled env, r = attemptAnswer kind canRetry (.error e) cancelled (restA env) ∧
      Ran S c0 sp g (attemptSteps kind canRetry (.error e : Except Fault β) cancelled (restS env))
        t s t' s' := by
  unfold Act.onFault at h
  cases hk : e.isOkay kind
  · simp only [attemptSteps, attemptAnswer_error hk, hk, Bool.false_eq_true, if_false]
    cases hw : e.isWrongState
    · -- a fault of another class goes straight to the retry or the failure
      have hc : e.classify kind = .retryable ∨ e.classify kind = .fatal := by
        unfold Fault.classify
        cases e.isRetryable <;> simp [hk, hw]
      have hr : Finishes Unshared t s (Act.retryOrFail kind canRetry again e) t' s' r := by
        rcases hc with hc | hc <;> rw [hc] at h <;> exact h
      simpa using finishes_retryOrFail_ran hsp hg hagain hr
    · have hc : e.classify kind = .wrongState := by simp [Fault.classify, hk, hw]
      rw [hc] at h
      obtain ⟨t₁, s₁, d, hgrow, h⟩ := finishes_bind_iff.1 h
      obtain ⟨b, hinc, rfl, rfl⟩ := finishes_growBackoff_iff.1 hgrow
      obtain ⟨t₂, s₂, u, hcount, h⟩ := finishes_bind_iff.1 h
      obtain ⟨k, b₂, hrec, rfl, rfl⟩ := finishes_countWrongState_iff.1 hcount
      obtain ⟨-, -, hg₁, -⟩ := hg.increase hsp hinc
      obtain ⟨-, hg₂, -⟩ := hg₁.recordInvalid hrec
      obtain ⟨cancelled, env, hr, hran⟩ :=
        finishes_retryOrFail_ran hsp (s := { s with backoff := b₂ }) hg₂ hagain h
      exact ⟨cancelled, env, hr, Ran.wrongState hsp hg hinc hrec rfl hran⟩
  · have hc : e.classify kind = .benign := classify_eq_benign_iff.2 hk
    rw [hc] at h
    simp only [pure_eq, finishes_pure_iff] at h
    obtain ⟨rfl, rfl, rfl⟩ := h
    refine ⟨false, default, by simp [attemptAnswer, ActionKind.settles, decisiveAnswer, hk], ?_⟩
    simp only [attemptSteps, hk, if_true]
    exact Ran.stop hg rfl le_rfl

theorem finishes_attempt_ran (hg : Backoff.GrownFrom S c0 sp g s.backoff)
    {o : Nat → Except Fault β}
    (hagain : canRetry = true → Continues S c0 sp (s.calls + 1) s.checks again t' s' r restA restS)
    (h : Finishes Unshared t s (Act.attempt kind (Act.answering o) canRetry again) t' s' r) :
    ∃ cancelled env, r = attemptAnswer kind canRetry (o s.calls) cancelled (restA env) ∧
      Ran S c0 sp g (attemptSteps kind canRetry (o s.calls) cancelled (restS env)) t s t' s' := by
  unfold Act.attempt at h
  rw [Act.answering, finishes_modifyGet_bind_iff] at h
  cases ho : o s.calls with
  | ok v =>
    rw [ho] at h
    have hr : attemptAnswer kind canRetry (.ok v) false (restA default) = .ok (some v) := by
      simp [attemptAnswer, ActionKind.settles, decisiveAnswer]
    -- a value answers, after a reset unless the action connects
    by_cases hc : (kind != .connect) = true
    · simp only [hc, if_true] at h
      obtain ⟨t₁, s₁, u, hres, h⟩ := finishes_bind_iff.1 h
      obtain ⟨rfl, rfl⟩ := finishes_resetBackoff_iff.1 hres
      rw [pure_eq, finishes_pure_iff] at h
      obtain ⟨rfl, rfl, rfl⟩ := h
      refine ⟨false, default, hr.symm, ?_⟩
      simp only [attemptSteps, hc, if_true]
      exact Ran.reset hg rfl le_rfl
    · simp only [hc, Bool.false_eq_true, if_false, pure_eq, finishes_pure_iff] at h
      obtain ⟨rfl, rfl, rfl⟩ := h
      refine ⟨false, default, hr.symm, ?_⟩
      simp only [attemptSteps, hc, Bool.false_eq_true, if_false]
      exact Ran.stop hg rfl le_rfl
  | error e =>
    rw [ho] at h
    obtain ⟨cancelled, env, hr, hran⟩ :=
      finishes_onFault_ran hsp (s := { s with calls := s.calls + 1 }) hg hagain h
    exact ⟨cancelled, env, hr, hran.of_backoff_eq rfl⟩

theorem finishes_retryRound_ran (hg : Backoff.GrownFrom S c0 sp g s.backoff)
    {c : Option (Nat → Except Fault Unit)} {o : Nat → Except Fault β}
    (hagain : canRetry = true → Continues S c0 sp (s.calls + 1)
      (s.checks + if c.isSome then 1 else 0) again t' s' r restA restS)
    (h : Finishes Unshared t s
      (Act.retryRound kind (c.map Act.checking) (Act.answering o) canRetry again) t' s' r) :
    ∃ closed cancelled env,
      r = roundAnswer kind canRetry closed (checkScript c s 0) (o s.calls) cancelled (restA env) ∧
      Ran S c0 sp g (roundSteps kind canRetry closed (checkScript c s 0) (o s.calls) cancelled
        (restS env)) t s t' s' := by
  unfold Act.retryRound at h
  rw [finishes_gets_bind_iff] at h
  cases hcl : s.closed
  · simp only [hcl, Bool.false_eq_true, if_false] at h
    cases c with
    | none =>
      obtain ⟨cancelled, env, hr, hran⟩ := finishes_attempt_ran hsp hg (by simpa using hagain) h
      exact ⟨false, cancelled, env, by simpa [roundAnswer, checkScript] using hr,
        by simpa [roundSteps, checkScript] using hran⟩
    | some c =>
      rw [Option.map_some, Act.checking, finishes_modifyGet_bind_iff] at h
      cases hx : c s.checks with
      | error e =>
        -- a failed pre-check is the answer; the action does not run
        rw [hx] at h
        simp only [pure_eq, finishes_pure_iff] at h
        obtain ⟨rfl, rfl, rfl⟩ := h
        refine ⟨false, false, default, by simp [roundAnswer, checkScript, hx], ?_⟩
        simp only [roundSteps, checkScript, Nat.add_zero, hx, Bool.false_eq_true, if_false]
        exact Ran.stop hg rfl le_rfl
      | ok u =>
        rw [hx] at h
        obtain ⟨cancelled, env, hr, hran⟩ :=
          finishes_attempt_ran hsp (s := { s with checks := s.checks + 1 }) hg
            (by simpa using hagain) h
        refine ⟨false, cancelled, env, by simpa [roundAnswer, checkScript, hx] using hr, ?_⟩
        simp only [roundSteps, checkScript, Nat.add_zero, hx, Bool.false_eq_true, if_false]
        exact hran.of_backoff_eq rfl
  · simp only [hcl, if_true, pure_eq, finishes_pure_iff] at h
    obtain ⟨rfl, rfl, rfl⟩ := h
    exact ⟨true, false, default, rfl, Ran.stop hg rfl le_rfl⟩

end Round

/-! ## The whole run -/

section Run

variable {kind : ActionKind} {r : Except Fault (Option β)} {S : BackoffSettings} {c0 : Nat}
  {sp : Span} {c : Option (Nat → Except Fault Unit)} {o : Nat → Except Fault β} {s₁ : World}

theorem checkScript_of_checks (h : s₁.checks = s.checks + if c.isSome then 1 else 0) :
    checkScript c s₁ = fun j => checkScript c s (j + 1) := by
  cases c with
  | none => rfl
  | some c =>
    funext j
    simp only [checkScript, h, Option.isSome_some, if_true]
    congr 1
    omega

theorem outcomes_of_calls (h : s₁.calls = s.calls + 1) :
    (fun j => o (s₁.calls + j)) = fun j => o (s.calls + (j + 1)) := by
  funext j
  rw [h]
  congr 1
  omega

/-- Every finished run of the loop with `n` retries answers as `runAnswer` says and takes the
steps `runSteps` gives, for some interference of the environment. -/
theorem finishes_retry_ran (hsp : S.base.scale (Binary64.ofNat S.jitterMin) = .ok sp) {n : Nat} :
    ∀ {t s g}, Backoff.GrownFrom S c0 sp g s.backoff →
      Finishes Unshared t s (Act.retry kind (c.map Act.checking) (Act.answering o) n) t' s' r →
      ∃ env, r = runAnswer kind n (checkScript c s) (fun j => o (s.calls + j)) env ∧
        Ran S c0 sp g (runSteps kind n (checkScript c s) (fun j => o (s.calls + j)) env)
          t s t' s' := by
  induction n with
  | zero =>
    intro t s g hg h
    rw [Act.retry] at h
    have hlast : false = true → Continues S c0 sp (s.calls + 1)
        (s.checks + if c.isSome then 1 else 0) (fun _ => pure (.ok none)) t' s' r
        (fun _ => .ok none) (fun _ => []) := fun h => Bool.noConfusion h
    obtain ⟨closed, cancelled, env, hr, hran⟩ := finishes_retryRound_ran hsp hg hlast h
    refine ⟨.cons closed cancelled default, ?_, ?_⟩
    · simpa [runAnswer_zero_eq] using hr
    · simpa [runSteps] using hran
  | succ n ih =>
    intro t s g hg h
    rw [Act.retry] at h
    -- the rest of the run is a run with one retry fewer, from the counts after the attempt
    have hrest : true = true → Continues S c0 sp (s.calls + 1)
        (s.checks + if c.isSome then 1 else 0)
        (fun _ => Act.retry kind (c.map Act.checking) (Act.answering o) n) t' s' r
        (runAnswer kind n (fun j => checkScript c s (j + 1)) fun j => o (s.calls + (j + 1)))
        (runSteps kind n (fun j => checkScript c s (j + 1)) fun j => o (s.calls + (j + 1))) := by
      intro _ t₁ s₁ g₁ hK hM hg₁ h₁
      obtain ⟨env, hr, hran⟩ := ih hg₁ h₁
      rw [checkScript_of_checks hM, outcomes_of_calls hK] at hr hran
      exact ⟨env, hr, hran⟩
    obtain ⟨closed, cancelled, env, hr, hran⟩ := finishes_retryRound_ran hsp hg hrest h
    refine ⟨.cons closed cancelled env, ?_, ?_⟩
    · simpa [runAnswer_succ_eq] using hr
    · simpa [runSteps] using hran

end Run

/-! ## Runs left alone -/

/-- In a scope that is not cancelled, a sleep of `d` can last exactly `d`, in whole
milliseconds: the environment lets the time run to the deadline. -/
theorem finishes_sleepUnlessCancelled_calm {d : Span} (hscope : s.scopeCancelled = false) :
    Finishes Unshared t s (Act.sleepUnlessCancelled d) (t + d.millisCeil) s false := by
  unfold Act.sleepUnlessCancelled
  rw [finishes_now_bind_iff]
  refine finishes_bind_iff.2 ⟨t + d.millisCeil, s, (), ?_, ?_⟩
  · have hdue : ({ deadline := some (t + d.millisCeil), ready := World.scopeCancelled } :
        Wake World).due (t + d.millisCeil) s = true := by
      simp [Wake.due]
    by_cases h0 : d.millisCeil = 0
    · rw [h0, Nat.add_zero] at hdue ⊢
      exact .step (.wait hdue) .refl
    · refine .env (.wait ?_) ⟨Nat.le_add_right _ _, rfl⟩ (.step (.wait hdue) .refl)
      simp only [Wake.due, hscope, Bool.or_false, decide_eq_false_iff_not]
      omega
  · rw [Proc.gets, finishes_look_iff, finishes_pure_iff]
    exact ⟨hscope.symm, rfl, rfl⟩

section Calm

variable {kind : ActionKind} {canRetry : Bool} {again : Unit → Act (Except Fault (Option β))}
  {S : BackoffSettings} {c0 g I : Nat} {sp : Span} {restA : Except Fault (Option β)}
  {restS : List RetryStep}

/-- The rest of a run left alone, entered with `K` calls of the action and `M` of the
pre-check made and at most `I` wrong states counted: it finishes with `restA`, after sleeping
the delays of `restS`. -/
def ContinuesCalm (S : BackoffSettings) (c0 : Nat) (sp : Span) (K M I : Nat)
    (again : Unit → Act (Except Fault (Option β))) (restA : Except Fault (Option β))
    (restS : List RetryStep) : Prop :=
  ∀ t₁ s₁ g₁, s₁.calls = K → s₁.checks = M → s₁.backoff.invalidCount ≤ I →
    s₁.closed = false → s₁.scopeCancelled = false → Backoff.GrownFrom S c0 sp g₁ s₁.backoff →
      ∃ s', Finishes Unshared t₁ s₁ (again ())
        (t₁ + sleepTime c0 sp.nanos S.cap.nanos (sleepGrowths g₁ restS)) s' restA

variable (hsp : S.base.scale (Binary64.ofNat S.jitterMin) = .ok sp)
  (hsum : S.cap.nanos + sp.nanos < Span.limit)
include hsp hsum

theorem finishes_retryOrFail_calm (hg : Backoff.GrownFrom S c0 sp g s.backoff)
    (hopen : s.closed = false) (hscope : s.scopeCancelled = false)
    (hI : s.backoff.invalidCount ≤ I) {e : Fault}
    (hagain : canRetry = true → ContinuesCalm S c0 sp s.calls s.checks I again restA restS) :
    ∃ s', Finishes Unshared t s (Act.retryOrFail kind canRetry again e)
      (t + sleepTime c0 sp.nanos S.cap.nanos
        (sleepGrowths g (retrySteps (e.isRetryable && canRetry) false restS))) s'
      (if e.isRetryable && canRetry then restA else .error (Act.failure kind e.isRetryable e)) := by
  unfold Act.retryOrFail
  by_cases hc : e.isRetryable && canRetry
  · simp only [hc, if_true, retrySteps, Bool.not_false, Bool.false_eq_true, if_false]
    obtain ⟨d, b, hinc⟩ := hg.increase_ok hsp hsum
    obtain ⟨hd, -, hg₁, hn⟩ := hg.increase hsp hinc
    obtain ⟨s', hrest⟩ := hagain (Bool.and_eq_true_iff.1 hc).2 (t + d.millisCeil)
      { s with backoff := b } (g + 1) rfl rfl (hn ▸ hI) hopen hscope hg₁
    -- the delay slept is the one the increase answered
    have hms : d.millisCeil =
        (Span.mk (grownDelay c0 sp.nanos S.cap.nanos (g + 1))).millisCeil := by
      simp only [Span.millisCeil, hd, hg₁.current]
    refine ⟨s', finishes_bind_iff.2 ⟨t, { s with backoff := b }, d,
      finishes_growBackoff_iff.2 ⟨b, hinc, rfl, rfl⟩, ?_⟩⟩
    refine finishes_bind_iff.2 ⟨t + d.millisCeil, { s with backoff := b }, false,
      finishes_sleepUnlessCancelled_calm hscope, ?_⟩
    simp only [sleepGrowths, sleepTime_cons, ← hms, ← Nat.add_assoc, Bool.false_eq_true,
      if_false]
    exact hrest
  · simp only [hc, Bool.false_eq_true, if_false, retrySteps, sleepGrowths, sleepTime_nil,
      Nat.add_zero]
    refine ⟨{ s with backoff := s.backoff.reset }, finishes_bind_iff.2 ⟨t, _, (),
      finishes_resetBackoff_iff.2 ⟨rfl, rfl⟩, ?_⟩⟩
    rw [pure_eq, finishes_pure_iff]
    exact ⟨rfl, rfl, rfl⟩

theorem finishes_onFault_calm (hg : Backoff.GrownFrom S c0 sp g s.backoff)
    (hopen : s.closed = false) (hscope : s.scopeCancelled = false)
    (hinv : s.backoff.invalidCount < Backoff.countLimit) {e : Fault}
    (hagain : canRetry = true → ContinuesCalm S c0 sp s.calls s.checks
      (s.backoff.invalidCount + 1) again restA restS) :
    ∃ s', Finishes Unshared t s (Act.onFault kind canRetry again e)
      (t + sleepTime c0 sp.nanos S.cap.nanos
        (sleepGrowths g (attemptSteps kind canRetry (.error e : Except Fault β) false restS)))
      s' (attemptAnswer kind canRetry (.error e) false restA) := by
  unfold Act.onFault
  cases hk : e.isOkay kind
  · simp only [attemptSteps, attemptAnswer_error hk, hk, Bool.false_eq_true, if_false]
    cases hw : e.isWrongState
    · -- a fault of another class goes straight to the retry or the failure
      have hc : e.classify kind = .retryable ∨ e.classify kind = .fatal := by
        unfold Fault.classify
        cases e.isRetryable <;> simp [hk, hw]
      obtain ⟨s', h⟩ := finishes_retryOrFail_calm hsp hsum hg hopen hscope (Nat.le_succ _) hagain
      refine ⟨s', ?_⟩
      rcases hc with hc | hc <;> rw [hc] <;> simpa using h
    · have hc : e.classify kind = .wrongState := by simp [Fault.classify, hk, hw]
      rw [hc]
      obtain ⟨d, b, hinc⟩ := hg.increase_ok hsp hsum
      obtain ⟨-, -, hg₁, hn⟩ := hg.increase hsp hinc
      have hrec := Backoff.recordInvalid_of_lt (b := b) (hn ▸ hinv)
      obtain ⟨-, hg₂, hn₂⟩ := hg₁.recordInvalid hrec
      obtain ⟨s', h⟩ := finishes_retryOrFail_calm hsp hsum
        (s := { s with backoff := { b with invalidCount := b.invalidCount + 1 } }) hg₂ hopen
        hscope (by simp [hn]) hagain
      refine ⟨s', finishes_bind_iff.2 ⟨t, { s with backoff := b }, d,
        finishes_growBackoff_iff.2 ⟨b, hinc, rfl, rfl⟩, finishes_bind_iff.2 ⟨t, _, (),
          finishes_countWrongState_iff.2 ⟨_, _, hrec, rfl, rfl⟩, ?_⟩⟩⟩
      simpa [sleepGrowths] using h
  · have hc : e.classify kind = .benign := classify_eq_benign_iff.2 hk
    rw [hc]
    refine ⟨s, ?_⟩
    simp [attemptSteps, attemptAnswer, ActionKind.settles, decisiveAnswer, hk, sleepGrowths,
      finishes_pure_iff]

theorem finishes_attempt_calm (hg : Backoff.GrownFrom S c0 sp g s.backoff)
    (hopen : s.closed = false) (hscope : s.scopeCancelled = false)
    (hinv : s.backoff.invalidCount < Backoff.countLimit) {o : Nat → Except Fault β}
    (hagain : canRetry = true → ContinuesCalm S c0 sp (s.calls + 1) s.checks
      (s.backoff.invalidCount + 1) again restA restS) :
    ∃ s', Finishes Unshared t s (Act.attempt kind (Act.answering o) canRetry again)
      (t + sleepTime c0 sp.nanos S.cap.nanos
        (sleepGrowths g (attemptSteps kind canRetry (o s.calls) false restS)))
      s' (attemptAnswer kind canRetry (o s.calls) false restA) := by
  unfold Act.attempt
  simp only [Act.answering, finishes_modifyGet_bind_iff]
  cases ho : o s.calls with
  | ok v =>
    have hr : attemptAnswer kind canRetry (.ok v) false restA = .ok (some v) := by
      simp [attemptAnswer, ActionKind.settles, decisiveAnswer]
    rw [hr]
    by_cases hc : (kind != .connect) = true
    · refine ⟨{ s with calls := s.calls + 1, backoff := s.backoff.reset }, ?_⟩
      simp only [attemptSteps, hc, if_true, sleepGrowths, sleepTime_nil, Nat.add_zero]
      refine finishes_bind_iff.2 ⟨t, _, (), finishes_resetBackoff_iff.2 ⟨rfl, rfl⟩, ?_⟩
      rw [pure_eq, finishes_pure_iff]
      exact ⟨rfl, rfl, rfl⟩
    · refine ⟨{ s with calls := s.calls + 1 }, ?_⟩
      simp [attemptSteps, hc, sleepGrowths, finishes_pure_iff]
  | error e =>
    exact finishes_onFault_calm hsp hsum (s := { s with calls := s.calls + 1 }) hg hopen hscope
      hinv hagain

theorem finishes_retryRound_calm (hg : Backoff.GrownFrom S c0 sp g s.backoff)
    (hopen : s.closed = false) (hscope : s.scopeCancelled = false)
    (hinv : s.backoff.invalidCount < Backoff.countLimit) {c : Option (Nat → Except Fault Unit)}
    {o : Nat → Except Fault β}
    (hagain : canRetry = true → ContinuesCalm S c0 sp (s.calls + 1)
      (s.checks + if c.isSome then 1 else 0) (s.backoff.invalidCount + 1) again restA restS) :
    ∃ s', Finishes Unshared t s
      (Act.retryRound kind (c.map Act.checking) (Act.answering o) canRetry again)
      (t + sleepTime c0 sp.nanos S.cap.nanos (sleepGrowths g
        (roundSteps kind canRetry false (checkScript c s 0) (o s.calls) false restS))) s'
      (roundAnswer kind canRetry false (checkScript c s 0) (o s.calls) false restA) := by
  unfold Act.retryRound
  simp only [finishes_gets_bind_iff, hopen, Bool.false_eq_true, if_false, roundSteps, roundAnswer]
  cases c with
  | none =>
    simpa [checkScript] using finishes_attempt_calm hsp hsum hg hopen hscope hinv
      (by simpa using hagain)
  | some c =>
    simp only [Option.map_some, Act.checking, finishes_modifyGet_bind_iff, checkScript,
      Nat.add_zero]
    cases hx : c s.checks with
    | error e =>
      refine ⟨{ s with checks := s.checks + 1 }, ?_⟩
      simp [sleepGrowths, finishes_pure_iff]
    | ok u =>
      exact finishes_attempt_calm hsp hsum (s := { s with checks := s.checks + 1 }) hg hopen
        hscope hinv (by simpa using hagain)

/-- A run left alone, with the session open, the scope never cancelled and room for every
increase and count, finishes, answering as `runAnswer` says for no interference, after exactly
the sleeps its steps take. -/
theorem finishes_retry_calm {c : Option (Nat → Except Fault Unit)} {o : Nat → Except Fault β}
    {n : Nat} :
    ∀ {t s g}, Backoff.GrownFrom S c0 sp g s.backoff →
      s.backoff.invalidCount + n < Backoff.countLimit → s.closed = false →
      s.scopeCancelled = false →
      ∃ s', Finishes Unshared t s (Act.retry kind (c.map Act.checking) (Act.answering o) n)
        (t + sleepTime c0 sp.nanos S.cap.nanos (sleepGrowths g
          (runSteps kind n (checkScript c s) (fun j => o (s.calls + j)) default))) s'
        (runAnswer kind n (checkScript c s) (fun j => o (s.calls + j)) default) := by
  induction n with
  | zero =>
    intro t s g hg hinv hopen hscope
    have hlast : false = true → ContinuesCalm (β := β) S c0 sp (s.calls + 1)
        (s.checks + if c.isSome then 1 else 0) (s.backoff.invalidCount + 1)
        (fun _ => pure (.ok none)) (.ok none) [] := fun h => Bool.noConfusion h
    rw [Act.retry, runAnswer_zero_eq, runSteps]
    exact finishes_retryRound_calm hsp hsum hg hopen hscope hinv hlast
  | succ n ih =>
    intro t s g hg hinv hopen hscope
    have hrest : true = true → ContinuesCalm S c0 sp (s.calls + 1)
        (s.checks + if c.isSome then 1 else 0) (s.backoff.invalidCount + 1)
        (fun _ => Act.retry kind (c.map Act.checking) (Act.answering o) n)
        (runAnswer kind n (fun j => checkScript c s (j + 1)) (fun j => o (s.calls + (j + 1)))
          default)
        (runSteps kind n (fun j => checkScript c s (j + 1)) (fun j => o (s.calls + (j + 1)))
          default) := by
      intro _ t₁ s₁ g₁ hK hM hI hopen₁ hscope₁ hg₁
      have h := ih (t := t₁) hg₁ (by omega) hopen₁ hscope₁
      rwa [checkScript_of_checks hM, outcomes_of_calls hK] at h
    rw [Act.retry, runAnswer_succ_eq, runSteps]
    exact finishes_retryRound_calm hsp hsum hg hopen hscope (by omega) hrest

end Calm

/-! ## The shared delay across a run -/

section Delays

variable {c : Option (Nat → Except Fault Unit)} {o : Nat → Except Fault β} {sp : Span}

/-- A run of the retry loop on its own backoff answers and calls the backoff as `runAnswer` and
`runSteps` say for some interference, sleeps at least `retryDelays` before its retries, and ends at
the base or the last grown delay, counting each wrong state; left alone with room for every
increase, it finishes after sleeping exactly those delays. -/
theorem retry_backoff_delays (kind : ActionKind) {n : Nat} (hsp : s.backoff.step = .ok sp)
    (hcap : s.backoff.current.nanos ≤ s.backoff.settings.cap.nanos) :
    (∀ {t t' s' r}, Finishes Unshared t s
        (Act.retry kind (c.map Act.checking) (Act.answering o) n) t' s' r →
      ∃ env,
        let cs := checkScript c s
        let os := fun j => o (s.calls + j)
        let steps := runSteps kind n cs os env
        r = runAnswer kind n cs os env ∧
        Backoff.applyAll (steps.flatMap (RetryStep.calls s.backoff.factor)) s.backoff =
          .ok s'.backoff ∧
        t + ((retryDelays s.backoff.current.nanos sp.nanos s.backoff.settings.cap.nanos os
          (retriesTaken kind n cs os env)).map Span.millisCeil).sum ≤ t' ∧
        s'.backoff.current.nanos =
          (if resetsBackoff kind n cs os env then s.backoff.settings.base.nanos
          else grownDelay s.backoff.current.nanos sp.nanos s.backoff.settings.cap.nanos
            (steps.countP RetryStep.grows)) ∧
        s'.backoff.invalidCount = s.backoff.invalidCount +
          (List.range (runCalls kind n cs os env)).countP fun i => kind.countsInvalid (os i)) ∧
    (s.closed = false → s.scopeCancelled = false →
      s.backoff.settings.cap.nanos + sp.nanos < Span.limit →
      s.backoff.invalidCount + n < Backoff.countLimit → ∀ t,
      ∃ s', Finishes Unshared t s (Act.retry kind (c.map Act.checking) (Act.answering o) n)
        (t + ((retryDelays s.backoff.current.nanos sp.nanos s.backoff.settings.cap.nanos
          (fun j => o (s.calls + j))
          (retriesTaken kind n (checkScript c s) (fun j => o (s.calls + j)) default)).map
            Span.millisCeil).sum) s'
        (runAnswer kind n (checkScript c s) (fun j => o (s.calls + j)) default)) := by
  have hg : Backoff.GrownFrom s.backoff.settings s.backoff.current.nanos sp 0 s.backoff :=
    ⟨rfl, by simp [grownDelay, hcap]⟩
  -- the delays slept before the retries, read off the steps
  have hslept : ∀ env, sleepTime s.backoff.current.nanos sp.nanos s.backoff.settings.cap.nanos
      (sleepGrowths 0 (runSteps kind n (checkScript c s) (fun j => o (s.calls + j)) env)) =
      ((retryDelays s.backoff.current.nanos sp.nanos s.backoff.settings.cap.nanos
        (fun j => o (s.calls + j))
        (retriesTaken kind n (checkScript c s) (fun j => o (s.calls + j)) env)).map
          Span.millisCeil).sum := by
    intro env
    simp [sleepGrowths_runSteps, sleepTime, retryDelays, Function.comp_def]
  refine ⟨fun h => ?_, fun hopen hscope hsum hinv t => ?_⟩
  · obtain ⟨env, hr, hran⟩ := finishes_retry_ran hsp hg h
    refine ⟨env, hr, hran.calls, hslept env ▸ hran.slept, ?_, ?_⟩
    · rw [hran.delay, finalDelay_runSteps, Nat.zero_add]
    · rw [hran.counted, count_runSteps]
  · rw [← hslept]
    exact finishes_retry_calm hsp hsum hg hinv hopen hscope


/-- A wrong-state fault, then a value: left alone, the run sleeps once, the base grown twice by
three times itself, and ends with the delay back at its base. -/
theorem retry_backoff_delays_wrongState :
    ∃ s', Finishes Unshared 0 (World.fresh "orders" {})
      (Act.retry .consume none (Act.answering fun j =>
        if j = 0 then .error ⟨.broker, some Code.wrongState, "state", none⟩ else .ok 7) 2)
      7000 s' (.ok (some 7)) ∧ s'.backoff.current.nanos = 1000000000 := by
  have hsp : (World.fresh "orders" {}).backoff.step = .ok ⟨3000000000⟩ := by decide +kernel
  obtain ⟨hrun, hcalm⟩ := retry_backoff_delays .consume (c := none) (n := 2)
    (o := fun j => if j = 0 then .error ⟨.broker, some Code.wrongState, "state", none⟩
      else .ok (7 : Nat)) hsp (by decide)
  obtain ⟨s', h⟩ := hcalm rfl rfl (by decide) (by decide) 0
  -- left alone, the run sleeps 7000 ms and answers the value
  have hcalmRun : Finishes Unshared 0 (World.fresh "orders" {})
      (Act.retry .consume none (Act.answering fun j =>
        if j = 0 then .error ⟨.broker, some Code.wrongState, "state", none⟩ else .ok 7) 2)
      7000 s' (.ok (some 7)) := by
    convert h using 2 <;> decide +kernel
  obtain ⟨env, hr, -, -, hcur, -⟩ := hrun hcalmRun
  rw [if_pos (resetsBackoff_iff.2 (.inl ⟨⟨7, hr.symm⟩, by decide⟩))] at hcur
  exact ⟨s', hcalmRun, hcur⟩

end Delays

end Proc

end BrokerSession
