import BrokerSession.World
import BrokerSession.Span

/-!
# Waiting for one event

`awaitOnce` waits on a receiver that is already subscribed, so nothing emitted after the
subscription is missed. It reads the events in order, skipping events of other kinds and
lag, and resolves once: with the first event of the wanted kind (failing with the event's
fault if it carries one), as cancelled when the bus closes or its token is cancelled, or at
its deadline, failing with a timeout when the wait is hard. Each check prefers events to
cancellation and cancellation to the deadline. The deadline counts from the first time the
wait runs.

`raceWithEvent` runs an operation while such a wait listens for a faulty event of one kind:
a fault delivered before the operation settles wins over the operation's own outcome; a wait
that resolves without a fault just stops listening.
-/

namespace BrokerSession

/-- How a one-shot wait ended when it did not fail. -/
inductive Resolution where
  | fired (e : BrokerEvent)
  | cancelled
  | timedOut
  deriving Repr

/-- What reading everything available finds. -/
inductive Found where
  | event (e : BrokerEvent)
  | closed
  | nothing
  deriving Repr

/-- Reads the receiver until an event of `kind`, the end of the bus, or nothing new, skipping
other events and lag; `fuel` bounds the reads. -/
def scanFor (rx : Nat) (kind : EventKind) : Nat → Bus → Found × Bus
  | 0, b => (.nothing, b)
  | fuel + 1, b =>
    match b.recv rx with
    | (.event e, b') => if e.kind == kind then (.event e, b') else scanFor rx kind fuel b'
    | (.lagged _, b') => scanFor rx kind fuel b'
    | (.closed, b') => (.closed, b')
    | (.empty, b') => (.nothing, b')

/-- Reads everything available to a receiver, up to the first event of `kind`. Every read
moves past an event, except one lag report and the last read, so the log size bounds the
reads. -/
def Bus.scan (b : Bus) (rx : Nat) (kind : EventKind) : Found × Bus :=
  scanFor rx kind (b.log.size + 2) b

namespace Act

/-- What wakes a wait on `rx`: news on the receiver, `token` cancelled, or the deadline. -/
def listenWake (rx token : Nat) (deadline : Option Nat) : Wake World :=
  { deadline, ready := fun w => w.bus.hasNews rx || w.isCancelled token }

/-- What a wait does once a read found nothing new: cancelled when `token` is, failing or
timed out once the deadline has passed, and otherwise parked for another round. -/
def afterNothing (rx token : Nat) (timeout : Option Span) (hard : Bool) (deadline : Option Nat) :
    Act (Unit ⊕ Except Fault Resolution) := do
  let w ← Proc.get
  let t ← Proc.now
  if w.isCancelled token then pure (.inr (.ok .cancelled))
  else
    let expired := match deadline with
      | some d => decide (d ≤ t)
      | none => false
    if expired then
      pure (.inr (if hard then .error (Fault.timeout (timeout.getD Span.zero)) else .ok .timedOut))
    else do
      Proc.await (listenWake rx token deadline)
      pure (.inl ())

/-- What a wait does with what a read found. -/
def onFound (rx token : Nat) (timeout : Option Span) (hard : Bool) (deadline : Option Nat) :
    Found → Act (Unit ⊕ Except Fault Resolution)
  | .event e =>
    pure (.inr (match e.fault? with
      | some f => .error f
      | none => .ok (.fired e)))
  | .closed => pure (.inr (.ok .cancelled))
  | .nothing => afterNothing rx token timeout hard deadline

/-- One round of a wait: read everything available, then resolve or park. -/
def listenRound (rx : Nat) (kind : EventKind) (timeout : Option Span) (hard : Bool) (token : Nat)
    (deadline : Option Nat) : Act (Unit ⊕ Except Fault Resolution) := do
  let found ← Proc.modifyGet fun w =>
    let (f, b) := w.bus.scan rx kind
    (f, { w with bus := b })
  onFound rx token timeout hard deadline found

/-- Waits on the subscribed receiver `rx` for the first event of `kind`, until `token` is
cancelled or `timeout` runs out. -/
def awaitOnce (rx : Nat) (kind : EventKind) (timeout : Option Span) (hard : Bool)
    (token : Nat) : Act (Except Fault Resolution) := do
  let start ← Proc.now
  let deadline := timeout.map fun d => start + d.millisCeil
  Proc.iterate () fun _ => listenRound rx kind timeout hard token deadline

/-- Runs `op` while listening once for a faulty event of `kind`; such a fault delivered
before `op` settles wins. -/
def raceWithEvent {β : Type} (kind : EventKind) (scope : Nat) (op : Act (Except Fault β)) :
    Act (Except Fault β) := do
  let rx ← subscribe
  let token ← childToken scope
  let fault : Act Fault := do
    match ← awaitOnce rx kind none false token with
    | .error e => pure e
    | .ok _ => Proc.never
  let r ← withReceiver rx (Proc.race fault op)
  cancel token
  pure (match r with
    | .inl e => .error e
    | .inr v => v)

end Act

end BrokerSession
