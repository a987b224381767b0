import BrokerSession.World
import BrokerSession.Span

/-!
# Rebalance processes

The coordinator's transitions as processes of a session (`Coordinator` holds its state):

* `revoke` while stable grows the shared backoff, starts a rebalance and arms a timer for the
  new delay, at most the ceiling; while rebalancing it does nothing. Growing the backoff may
  panic; the caller decides what that stops, so it is returned, not raised.
* `assign` replaces the assignment, disarms the timer and makes the coordinator stable.
* the timer, a process of its own, makes the coordinator stable when it expires while still
  rebalancing, unless its token was cancelled first. It selects between the two without bias:
  when both are there by the time it runs, either may win;
* `awaitStable` returns at once when stable, and otherwise when the coordinator becomes
  stable, the ceiling runs out, or the scope is cancelled.
-/

namespace BrokerSession

/-- Whether the rebalance timer of `token`, woken at `t` with deadline `deadline`, takes its
expiry: its token is live, or its deadline has passed too and the tie goes to the expiry. -/
def World.timerExpires (w : World) (token deadline t : Nat) : Bool :=
  !w.isCancelled token || (decide (deadline ≤ t) && w.expiryWinsTie token)

namespace Act

/-- The rebalance timer guarded by `token`: expires `delay` from now, unless its token is
cancelled first. An expiry checks only that a rebalance is in flight. -/
def rebalanceTimer (token : Nat) (delay : Span) : Act Unit := do
  let deadline := (← Proc.now) + delay.millisCeil
  Proc.await { deadline := some deadline, ready := (·.isCancelled token) }
  if (← Proc.get).timerExpires token deadline (← Proc.now) then
    Proc.modify fun w => { w with coordinator := w.coordinator.expire }

/-- Partitions are being revoked. -/
def revoke (ceiling : Span) : Act (Except Halt Unit) := do
  let w ← Proc.get
  if w.coordinator.isRebalancing then return .ok ()
  match w.backoff.increase with
  | .error h => return .error h
  | .ok (d, b) =>
    let delay := min d ceiling
    let (token, tokens) := w.tokens.child w.scope
    let tokens := match w.coordinator.timer with
      | some old => tokens.cancel old
      | none => tokens
    Proc.set { w with backoff := b, tokens, coordinator := w.coordinator.startRebalance token }
    Proc.fork (rebalanceTimer token delay)
    return .ok ()

/-- Cancels the armed timer, if any. -/
def disarmTimer : Act Unit := Proc.modify fun w =>
  match w.coordinator.timer with
  | some t => { w with tokens := w.tokens.cancel t, coordinator := w.coordinator.disarm }
  | none => w

/-- A new assignment arrived. -/
def assign (ps : List Partition) : Act Unit := do
  Proc.modify fun w => { w with coordinator := { w.coordinator with assignment := ps } }
  disarmTimer
  Proc.modify fun w => { w with coordinator := { w.coordinator with phase := .stable } }

/-- Waits until the coordinator is stable, the ceiling runs out or the scope is cancelled. -/
def awaitStable (ceiling : Span) : Act Unit := do
  let w ← Proc.get
  if !w.coordinator.isRebalancing then return
  let t ← Proc.now
  Proc.await { deadline := some (t + ceiling.millisCeil),
               ready := fun w => !w.coordinator.isRebalancing || w.scopeCancelled }

end Act

end BrokerSession
