import BrokerSession.Proc.Basic
import BrokerSession.Broker.Bus
import BrokerSession.Broker.Scripted
import BrokerSession.Cancel
import BrokerSession.Backoff
import BrokerSession.Rebalance

/-!
# The world of a session

Everything the processes of one session share: the connection's event bus, the cancellation
tokens, the backoff, the closed flag and scope token of the session, the rebalance
coordinator, the scripted connection on either side, the offset window and counters of a
consuming session, and the counters of a producing one.

A panic of the main process is recorded in `halted`; the process then never goes on, and
whoever runs it reports the panic.
-/

namespace BrokerSession

/-- The shared state of a session and its connection. -/
structure World where
  bus : Bus := {}
  tokens : Tokens := {}
  halted : Option Halt := none
  backoff : Backoff
  closed : Bool := false
  /-- the session's scope token: cancelling it cancels every wait and timer of the session -/
  scope : Nat := 0
  coordinator : Coordinator := {}
  /-- how the select of the rebalance timer of each token goes when, by the time the timer
  runs, its deadline has passed and its token is cancelled: `true` when the expiry wins. The
  select polls its two branches in a random order; runs take the expiry. -/
  expiryWinsTie : Nat → Bool := fun _ => true
  consumer : ScriptedConsumer := {}
  producer : ScriptedProducer := {}
  window : OffsetWindow
  /-- commit attempts per partition not yet answered by the broker -/
  pending : PartitionMap Nat := []
  emptyWindows : Nat := 0
  bytesConsumed : Nat := 0
  /-- the event bridge has been started -/
  bridged : Bool := false
  /-- client errors counted by a producing session's bridge -/
  clientErrors : Nat := 0
  /-- calls of a scripted action -/
  calls : Nat := 0
  /-- calls of a scripted pre-check -/
  checks : Nat := 0

namespace World

/-- A fresh world for a session on `topic` with backoff settings `s`; token 0 is the scope. -/
def fresh (topic : String) (s : BackoffSettings) : World :=
  let (scope, tokens) := ({} : Tokens).fresh
  { backoff := Backoff.new s, window := { topic }, tokens, scope }

def isCancelled (w : World) (token : Nat) : Bool := w.tokens.isCancelled token

def scopeCancelled (w : World) : Bool := w.isCancelled w.scope

end World

/-- A process of a session. -/
abbrev Act := Proc World

namespace Act

/-- Stops the program: records the panic and never goes on. -/
def halt {α : Type} (h : Halt) : Act α := do
  Proc.modify fun w => { w with halted := some h }
  Proc.never

/-- The value, or a panic. -/
def orHalt {α : Type} : Except Halt α → Act α
  | .ok a => pure a
  | .error h => halt h

/-- Emits an event on the bus. -/
def emit (e : BrokerEvent) : Act Unit := Proc.modify fun w => { w with bus := w.bus.emit e }

/-- A new receiver on the bus. -/
def subscribe : Act Nat :=
  Proc.modifyGet fun w => let (id, b) := w.bus.subscribe; (id, { w with bus := b })

/-- Drops a receiver. -/
def unsubscribe (id : Nat) : Act Unit :=
  Proc.modify fun w => { w with bus := w.bus.unsubscribe id }

/-- Runs `p` holding the receiver `rx`, which is dropped when `p` finishes or is dropped. -/
def withReceiver {α : Type} (rx : Nat) (p : Act α) : Act α :=
  Proc.hold (fun w => { w with bus := w.bus.unsubscribe rx }) p

/-- A new token below `parent`. -/
def childToken (parent : Nat) : Act Nat :=
  Proc.modifyGet fun w => let (id, t) := w.tokens.child parent; (id, { w with tokens := t })

/-- Cancels a token and every token below it. -/
def cancel (token : Nat) : Act Unit :=
  Proc.modify fun w => { w with tokens := w.tokens.cancel token }

def isCancelled (token : Nat) : Act Bool := Proc.gets (·.isCancelled token)

end Act

end BrokerSession
