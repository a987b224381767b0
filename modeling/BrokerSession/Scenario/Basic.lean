import BrokerSession.World
import BrokerSession.Proc.Run

/-!
# Running a scenario

A scenario is a main process over a session's world, run from time zero. Every wait of a
scenario is guarded: a wait that has not resolved after 365 days of virtual time is given up
as stalled. A panic of the main process ends the whole scenario.

Scheduled actions (`Act.at`) are processes of their own, spawned before the main work starts:
each sleeps until its time and then acts.
-/

namespace BrokerSession

/-- The guard on every wait: 365 days, in milliseconds. -/
def guardMs : Nat := 365 * 24 * 60 * 60 * 1000

/-- A guarded wait: its value, or `none` when it stalled. -/
def Act.guarded {α : Type} (p : Act α) : Act (Option α) := do
  let t ← Proc.now
  match ← Proc.race p (Proc.sleepUntil (t + guardMs)) with
  | .inl a => pure (some a)
  | .inr () => pure none

/-- Spawns a process that acts at time `t`. -/
def Act.at (t : Nat) (act : Act Unit) : Act Unit :=
  Proc.fork (do Proc.sleepUntil t; act)

/-- How a scenario ended. -/
inductive Ending (α : Type) where
  | finished (a : α)
  | panicked (h : Halt)
  /-- the run could not go on (no process can ever wake, or the run was too long) -/
  | stuck
  deriving Repr

/-- The most steps a scenario may take. -/
def scenarioSteps : Nat := 50000000

/-- Runs a main process from time zero in world `w`; a panic ends it at once. -/
def runScenario {α : Type} (w : World) (main : Act α) : Ending α :=
  let watched : Act (α ⊕ Unit) := Proc.race main (Proc.waitUntil fun w => w.halted.isSome)
  match (Run.start 0 w watched).run scenarioSteps with
  | .finished (.inl a) _ => .finished a
  | .finished (.inr ()) r =>
    match r.world.halted with
    | some h => .panicked h
    | none => .stuck
  | _ => .stuck

end BrokerSession
