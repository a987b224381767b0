import BrokerSession.Scenario.Basic
import BrokerSession.Session.Retry

/-!
# A scripted retry run

One run of the retry executor over a scripted action. Call `n` of the action (counting from
one) plays attempt `min n len - 1` of the script, and an empty script succeeds every time. A
successful attempt answers `n`. A scripted attempt may first emit an event on the
connection's bus and sleep before it answers.

The pre-check, when there is one, is numbered too: from call `failFrom` on it fails with its
fault. The scope may be cancelled, and the session closed, at given times; with `race` every
attempt is raced against a faulty event of that kind.
-/

namespace BrokerSession

/-- One scripted attempt of an action. -/
inductive Attempt where
  /-- succeed with the call number -/
  | succeed
  | fail (e : Fault)
  /-- emit an event, sleep, then answer (`none` succeeds) -/
  | staged (emit : Option BrokerEvent) (delayMs : Option Nat) (result : Option Fault)
  deriving Repr

/-- A scripted pre-check: calls numbered `failFrom` and later fail with `fault`; without a
fault every call passes. -/
structure CheckScript where
  failFrom : Nat := 1
  fault : Option Fault := none
  deriving Repr

/-- The script of a retry run. -/
structure RetryScript where
  action : ActionKind
  maxRetries : Nat
  attempts : List Attempt
  backoff : BackoffSettings := {}
  closed : Bool := false
  scopeCancelled : Bool := false
  initialInvalid : Nat := 0
  check : Option CheckScript := none
  cancelScopeAt : Option Nat := none
  closeAt : Option Nat := none
  race : Option EventKind := none
  deriving Repr

/-- What a retry run leaves. -/
structure RetryReport where
  /-- `none` when the run stalled -/
  result : Option (Except Fault (Option Nat))
  calls : Nat
  elapsedMs : Nat
  backoff : Span
  invalidCount : Nat
  listeners : Nat
  /-- the delays depend on a random draw -/
  drawn : Bool

namespace RetryScript

/-- The attempt played by call `n`. -/
def attemptAt (s : RetryScript) (n : Nat) : Attempt :=
  match s.attempts with
  | [] => .succeed
  | a :: rest => (a :: rest).getD (min (n - 1) rest.length) .succeed

/-- The scripted action: counts the call and plays its attempt. -/
def actionProc (s : RetryScript) : Act (Except Fault Nat) := do
  let n ← Proc.modifyGet fun w => (w.calls + 1, { w with calls := w.calls + 1 })
  match s.attemptAt n with
  | .succeed => pure (.ok n)
  | .fail e => pure (.error e)
  | .staged emit delay result =>
    match emit with
    | some e => Act.emit e
    | none => pure ()
    match delay with
    | some ms => Proc.sleep ms
    | none => pure ()
    pure (match result with
      | some e => .error e
      | none => .ok n)

/-- The scripted pre-check. -/
def checkProc (c : CheckScript) : Act (Except Fault Unit) := do
  let n ← Proc.modifyGet fun w => (w.checks + 1, { w with checks := w.checks + 1 })
  pure (match c.fault with
    | some e => if c.failFrom ≤ n then .error e else .ok ()
    | none => .ok ())

/-- The world a run starts from. -/
def world (s : RetryScript) : World :=
  let w := World.fresh "events" s.backoff
  let w := { w with closed := s.closed,
                    backoff := { w.backoff with invalidCount := s.initialInvalid } }
  if s.scopeCancelled then { w with tokens := w.tokens.cancel w.scope } else w

/-- The main process of a run. -/
def main (s : RetryScript) : Act RetryReport := do
  match s.cancelScopeAt with
  | some t => Act.at t (do Act.cancel (← Proc.gets (·.scope)))
  | none => pure ()
  match s.closeAt with
  | some t => Act.at t (Proc.modify fun w => { w with closed := true })
  | none => pure ()
  let check := s.check.map checkProc
  let run := match s.race with
    | some k => Act.retryRacing k s.action check s.actionProc s.maxRetries
    | none => Act.retry s.action check s.actionProc s.maxRetries
  let r ← Act.guarded run
  let w ← Proc.get
  let t ← Proc.now
  pure { result := r, calls := w.calls, elapsedMs := t, backoff := w.backoff.current,
         invalidCount := w.backoff.invalidCount, listeners := w.bus.receiverCount,
         drawn := !w.backoff.isExact }

end RetryScript

/-- Runs a scripted retry. -/
def RetryScript.run (s : RetryScript) : Ending RetryReport := runScenario s.world s.main

end BrokerSession
