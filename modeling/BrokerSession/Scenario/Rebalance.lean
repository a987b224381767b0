import BrokerSession.Scenario.Basic
import BrokerSession.Session.Rebalance

/-!
# A scripted rebalance

Steps acting on a coordinator one after the other. Each step may bring events that happen
at given times after it starts, for as long as it runs. After each step the other processes
run until they wait again, and the coordinator is reported. A step that cannot be read ends
the scenario with its reason, at the point where it would have run.
-/

namespace BrokerSession

/-- Something that happens to a coordinator. -/
inductive CoordinatorEvent where
  | revoke (ps : List Partition)
  | assign (ps : List Partition)
  | failed (e : Fault)
  | shutdown
  | cancelScope
  deriving Repr

/-- A step of a rebalance scenario. -/
inductive RebalanceStep where
  | event (e : CoordinatorEvent)
  | state
  | sleep (ms : Nat)
  | awaitStable
  deriving Repr

/-- A step with what happens during it. -/
structure Timed (α β : Type) where
  step : α
  during : List (Nat × β) := []
  deriving Repr

/-- What a rebalance step leaves. -/
structure RebalanceReport where
  /-- `false` when the step stalled -/
  completed : Bool
  phase : RebalancePhase
  assignment : List Partition
  backoff : Span
  stepMs : Nat
  elapsedMs : Nat

/-- The script of a rebalance scenario. -/
structure RebalanceScript where
  topic : String := "events"
  ceilingMs : Nat := 1800000
  backoff : BackoffSettings := {}
  deriving Repr

/-- Runs the events `during` a step at their times after `start`, in time order. -/
def Act.during {β : Type} (start : Nat) (act : β → Act Unit) (es : List (Nat × β)) :
    Act Unit := do
  let sorted := es.mergeSort fun a b => decide (a.1 ≤ b.1)
  for (t, e) in sorted do
    Proc.sleepUntil (start + t)
    act e
  Proc.never

/-- Runs a step together with what happens during it, until the step finishes. -/
def Act.withDuring {α β : Type} (step : Act α) (act : β → Act Unit) (es : List (Nat × β)) :
    Act α := do
  let start ← Proc.now
  match ← Proc.race step (Act.during start act es) with
  | .inl a => pure a
  | .inr () => Proc.never

namespace RebalanceScript

def ceiling (s : RebalanceScript) : Span := Span.ofMillis s.ceilingMs

/-- Applies a coordinator event. -/
def apply (s : RebalanceScript) : CoordinatorEvent → Act Unit
  | .revoke _ => do Act.orHalt (← Act.revoke s.ceiling)
  | .assign ps => Act.assign ps
  | .failed _ => pure ()
  | .shutdown => Act.disarmTimer
  | .cancelScope => do Act.cancel (← Proc.gets (·.scope))

/-- The process of one step. -/
def stepProc (s : RebalanceScript) : RebalanceStep → Act Unit
  | .event e => s.apply e
  | .state => pure ()
  | .sleep ms => Proc.sleep ms
  | .awaitStable => Act.awaitStable s.ceiling

/-- Runs the steps; a step that cannot be read ends the run with its reason. -/
def runSteps {ε : Type} (s : RebalanceScript) :
    List (Except ε (Timed RebalanceStep CoordinatorEvent)) → List RebalanceReport →
      Act (Except ε (List RebalanceReport))
  | [], acc => pure (.ok acc.reverse)
  | .error e :: _, _ => pure (.error e)
  | .ok st :: rest, acc => do
    let start ← Proc.now
    let r ← Act.guarded (Act.withDuring (s.stepProc st.step) s.apply st.during)
    Proc.settleAll
    let w ← Proc.get
    let t ← Proc.now
    let report : RebalanceReport :=
      { completed := r.isSome, phase := w.coordinator.phase,
        assignment := w.coordinator.assignment, backoff := w.backoff.current,
        stepMs := t - start, elapsedMs := t }
    s.runSteps rest (report :: acc)

/-- Runs a rebalance scenario. -/
def run {ε : Type} (s : RebalanceScript)
    (steps : List (Except ε (Timed RebalanceStep CoordinatorEvent))) :
    Ending (Except ε (List RebalanceReport)) :=
  runScenario (World.fresh s.topic s.backoff) (s.runSteps steps [])

end RebalanceScript

end BrokerSession
