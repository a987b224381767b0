import BrokerSession.Session.Wait
import BrokerSession.Fault.Class

/-!
# Retrying broker actions

`Act.retry kind n check action` runs a broker action under the fault taxonomy, with at most
`n` retries. Each round:

1. a closed session does nothing (`ok none`);
2. the pre-check runs, and its fault is the answer as it is;
3. the action runs; success resets the backoff (except for connecting) and is the answer;
4. a benign fault means nothing was done (`ok none`);
5. a wrong-state fault grows the backoff and counts one more wrong state;
6. a retryable fault with retries left takes one, grows the backoff and sleeps the new
   delay; a cancelled scope during the sleep ends the run with `ok none`;
7. any other fault resets the backoff and is wrapped as `Failure to <verb>`, with
   ` after retries` when it was retryable.

Every round either answers or takes a retry, so the action runs at most `n + 1` times.
-/

namespace BrokerSession

namespace Act

/-- Grows the shared backoff; the new delay. -/
def growBackoff : Act Span := do
  let w ← Proc.get
  let (d, b) ← orHalt w.backoff.increase
  Proc.set { w with backoff := b }
  pure d

/-- Counts one more wrong-state fault. -/
def countWrongState : Act Unit := do
  let w ← Proc.get
  let (_, b) ← orHalt w.backoff.recordInvalid
  Proc.set { w with backoff := b }

/-- Brings the shared backoff back to its base. -/
def resetBackoff : Act Unit := Proc.modify fun w => { w with backoff := w.backoff.reset }

/-- Sleeps `d` unless the session's scope is cancelled first; `true` when cancelled. -/
def sleepUnlessCancelled (d : Span) : Act Bool := do
  let t ← Proc.now
  Proc.await { deadline := some (t + d.millisCeil), ready := World.scopeCancelled }
  Proc.gets World.scopeCancelled

/-- The fault a run ends with when retrying does not help. -/
def failure (kind : ActionKind) (retryable : Bool) (e : Fault) : Fault :=
  let m := if retryable then s!"Failure to {kind.verb} after retries" else s!"Failure to {kind.verb}"
  Fault.wrap m e

/-- The end of a round whose action failed with `e`: a retry when `e` is retryable and one is
left (`canRetry`), after growing the backoff and sleeping its delay; otherwise the failure. -/
def retryOrFail {β : Type} (kind : ActionKind) (canRetry : Bool)
    (again : Unit → Act (Except Fault (Option β))) (e : Fault) : Act (Except Fault (Option β)) := do
  let retryable := e.isRetryable
  if retryable && canRetry then
    let d ← growBackoff
    if ← sleepUnlessCancelled d then return .ok none
    again ()
  else
    resetBackoff
    return .error (failure kind retryable e)

/-- What a round does with the action's fault `e`. -/
def onFault {β : Type} (kind : ActionKind) (canRetry : Bool)
    (again : Unit → Act (Except Fault (Option β))) (e : Fault) : Act (Except Fault (Option β)) := do
  match e.classify kind with
  | .benign => return .ok none
  | .wrongState =>
    let _ ← growBackoff
    countWrongState
    retryOrFail kind canRetry again e
  | _ => retryOrFail kind canRetry again e

/-- The action's call in a round, once the session was found open and the pre-check passed. -/
def attempt {β : Type} (kind : ActionKind) (action : Act (Except Fault β)) (canRetry : Bool)
    (again : Unit → Act (Except Fault (Option β))) : Act (Except Fault (Option β)) := do
  match ← action with
  | .ok v =>
    if kind != .connect then resetBackoff
    return .ok (some v)
  | .error e => onFault kind canRetry again e

/-- One round of a run: `again` runs the remaining rounds, and is used only when a retry is
left (`canRetry`). -/
def retryRound {β : Type} (kind : ActionKind) (check : Option (Act (Except Fault Unit)))
    (action : Act (Except Fault β)) (canRetry : Bool)
    (again : Unit → Act (Except Fault (Option β))) : Act (Except Fault (Option β)) := do
  if ← Proc.gets (·.closed) then return .ok none
  match check with
  | some c =>
    match ← c with
    | .error e => return .error e
    | .ok () => attempt kind action canRetry again
  | none => attempt kind action canRetry again

/-- Runs `action` with at most `left` retries. -/
def retry {β : Type} (kind : ActionKind) (check : Option (Act (Except Fault Unit)))
    (action : Act (Except Fault β)) : Nat → Act (Except Fault (Option β))
  | 0 => retryRound kind check action false fun _ => pure (.ok none)
  | n + 1 => retryRound kind check action true fun _ => retry kind check action n

/-- `retry`, with every attempt raced against a faulty event of `event`. -/
def retryRacing {β : Type} (event : EventKind) (kind : ActionKind)
    (check : Option (Act (Except Fault Unit))) (action : Act (Except Fault β)) (left : Nat) :
    Act (Except Fault (Option β)) := do
  let scope ← Proc.gets (·.scope)
  retry kind check (raceWithEvent event scope action) left

end Act

end BrokerSession
