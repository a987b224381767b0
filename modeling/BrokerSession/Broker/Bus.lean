import BrokerSession.Broker.Event

/-!
# The event bus

A bus fans events out to receivers. A receiver sees every event emitted after it subscribed,
in order, unless it falls behind: the bus keeps only the last `capacity` events, and a
receiver whose next event is older than that is told how many it missed and continues with
the oldest event still kept. An event emitted while nobody listens is lost. Once the sending
side is dropped, a receiver that has seen everything is told that the bus is closed.

Every event ever kept stays in `log`, at the index of its position; the receivers hold the
position of the next event they will read.
-/

namespace BrokerSession

/-- The bus keeps this many events for slow receivers. -/
def busCapacity : Nat := 1024

/-- What a receiver gets when it reads. -/
inductive Received where
  | event (e : BrokerEvent)
  /-- it fell behind by this many events -/
  | lagged (missed : Nat)
  | closed
  /-- nothing new -/
  | empty
  deriving Repr

/-- A broadcast bus of broker events. -/
structure Bus where
  log : Array BrokerEvent := #[]
  /-- receiver id with the position of its next event -/
  receivers : List (Nat × Nat) := []
  nextReceiver : Nat := 0
  /-- the sending side is still there -/
  sending : Bool := true

namespace Bus

/-- Emits an event to the current receivers. -/
def emit (b : Bus) (e : BrokerEvent) : Bus :=
  if b.receivers.isEmpty then b else { b with log := b.log.push e }

/-- A new receiver, reading from the next event emitted. -/
def subscribe (b : Bus) : Nat × Bus :=
  (b.nextReceiver, { b with receivers := b.receivers ++ [(b.nextReceiver, b.log.size)],
                            nextReceiver := b.nextReceiver + 1 })

/-- Drops a receiver. -/
def unsubscribe (b : Bus) (id : Nat) : Bus :=
  { b with receivers := b.receivers.filter (·.1 != id) }

/-- How many receivers are subscribed. -/
def receiverCount (b : Bus) : Nat := b.receivers.length

/-- Drops the sending side. -/
def close (b : Bus) : Bus := { b with sending := false }

/-- The position of the oldest event still kept. -/
def oldest (b : Bus) : Nat := b.log.size - busCapacity

/-- Reading would not come back empty-handed. -/
def hasNews (b : Bus) (id : Nat) : Bool :=
  match b.receivers.lookup id with
  | some next => decide (next < b.log.size) || !b.sending
  | none => false

/-- Moves a receiver to a position. -/
def seekReceiver (b : Bus) (id pos : Nat) : Bus :=
  { b with receivers := b.receivers.map fun (r, p) => if r == id then (r, pos) else (r, p) }

/-- Reads the next event of a receiver. -/
def recv (b : Bus) (id : Nat) : Received × Bus :=
  match b.receivers.lookup id with
  | none => (.closed, b)
  | some next =>
    if next < b.oldest then (.lagged (b.oldest - next), b.seekReceiver id b.oldest)
    else if h : next < b.log.size then (.event b.log[next], b.seekReceiver id (next + 1))
    else if b.sending then (.empty, b) else (.closed, b)

end Bus

end BrokerSession
