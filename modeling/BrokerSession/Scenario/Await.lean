import BrokerSession.Scenario.Retry

/-!
# Scripted waits

`AwaitScript` runs one `awaitOnce` on a fresh bus: the receiver is subscribed first, then the
events `before` are emitted, then the bus may lose its sending side; events and
cancellations scheduled on the timeline happen at their times.

`RaceScript` runs one `raceWithEvent` around a scripted operation that answers `7` when it
succeeds, with events scheduled on the timeline.
-/

namespace BrokerSession

/-- Something that happens at a scheduled time during a wait. -/
inductive Happening where
  | emit (e : BrokerEvent)
  | cancelSubscription
  | cancelScope
  deriving Repr

/-- A happening and its time. -/
structure Scheduled where
  atMs : Nat
  happening : Happening
  deriving Repr

/-- The script of one wait. -/
structure AwaitScript where
  kind : EventKind
  timeoutMs : Option Nat := none
  hard : Bool := false
  scopeCancelled : Bool := false
  before : List BrokerEvent := []
  timeline : List Scheduled := []
  dropBus : Bool := false
  deriving Repr

/-- What a wait leaves. -/
structure AwaitReport where
  /-- `none` when the wait stalled -/
  result : Option (Except Fault Resolution)
  elapsedMs : Nat
  subscriptionCancelled : Bool

namespace AwaitScript

/-- The main process of a wait. -/
def main (s : AwaitScript) : Act AwaitReport := do
  let scope ← Proc.gets (·.scope)
  if s.scopeCancelled then Act.cancel scope
  let rx ← Act.subscribe
  let token ← Act.childToken scope
  for e in s.before do Act.emit e
  if s.dropBus then Proc.modify fun w => { w with bus := w.bus.close }
  for x in s.timeline do
    Act.at x.atMs (match x.happening with
      | .emit e => Act.emit e
      | .cancelSubscription => Act.cancel token
      | .cancelScope => Act.cancel scope)
  let r ← Act.guarded (Act.awaitOnce rx s.kind (s.timeoutMs.map Span.ofMillis) s.hard token)
  let w ← Proc.get
  let t ← Proc.now
  pure { result := r, elapsedMs := t, subscriptionCancelled := w.isCancelled token }

end AwaitScript

/-- Runs a scripted wait. -/
def AwaitScript.run (s : AwaitScript) : Ending AwaitReport :=
  runScenario (World.fresh "events" {}) s.main

/-- The script of one race. -/
structure RaceScript where
  kind : EventKind
  operation : Attempt
  scopeCancelled : Bool := false
  timeline : List Scheduled := []
  deriving Repr

/-- What a race leaves. -/
structure RaceReport where
  /-- `none` when the race stalled -/
  result : Option (Except Fault Nat)
  elapsedMs : Nat
  listeners : Nat

namespace RaceScript

/-- The scripted operation, answering `7` when it succeeds. -/
def operationProc (a : Attempt) : Act (Except Fault Nat) :=
  match a with
  | .succeed => pure (.ok 7)
  | .fail e => pure (.error e)
  | .staged emit delay result => do
    match emit with
    | some e => Act.emit e
    | none => pure ()
    match delay with
    | some ms => Proc.sleep ms
    | none => pure ()
    pure (match result with
      | some e => .error e
      | none => .ok 7)

/-- The main process of a race. -/
def main (s : RaceScript) : Act RaceReport := do
  let scope ← Proc.gets (·.scope)
  if s.scopeCancelled then Act.cancel scope
  for x in s.timeline do
    Act.at x.atMs (match x.happening with
      | .emit e => Act.emit e
      | .cancelSubscription => pure ()
      | .cancelScope => Act.cancel scope)
  let r ← Act.guarded (Act.raceWithEvent s.kind scope (operationProc s.operation))
  let w ← Proc.get
  let t ← Proc.now
  pure { result := r, elapsedMs := t, listeners := w.bus.receiverCount }

end RaceScript

/-- Runs a scripted race. -/
def RaceScript.run (s : RaceScript) : Ending RaceReport :=
  runScenario (World.fresh "events" {}) s.main

end BrokerSession
