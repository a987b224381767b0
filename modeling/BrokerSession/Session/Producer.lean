import BrokerSession.Session.Retry
import BrokerSession.Config
import BrokerSession.Json.Write
import BrokerSession.Text.Utf8

/-!
# The producing session

A producing session enqueues records on a scripted producer connection and flushes them.

`produce` on a closed session does nothing and answers `0`. Otherwise it enqueues every
record, to its own topic or the session's, keeping every enqueue failure; flushes through
the retry executor (action `any`); and answers the number of records, unless the flush
failed (its fault) or some enqueue failed (`Failure to produce k of n messages`, caused by the
first enqueue failure). Client errors reported while producing are only noticed.

`produceJson` writes each item as compact JSON first; an item that cannot be written fails
the whole call before anything is enqueued.

The event bridge, started by the first `connect`, counts client errors until disconnect.
-/

namespace BrokerSession

/-- An item to be written as JSON. -/
inductive JsonItem where
  | value (j : Json)
  /-- a map whose keys are not strings: it cannot be written -/
  | unwritable
  deriving Repr

/-- The fault of an item that cannot be written as JSON. -/
def unwritableFault : Fault := Fault.ofKind .failure "failed to serialize: key must be a string"

namespace Act

/-! ## The scripted producer connection -/

/-- Connects: success marks the connection up and emits `ready`; a refusal emits
`connect_error` and is returned. -/
def producerConnect : Act (Except Fault Unit) := do
  let r ← Proc.modifyGet fun w => let (r, p) := w.producer.connect; (r, { w with producer := p })
  match r with
  | none => emit .ready; pure (.ok ())
  | some e => emit (.connectError e); pure (.error e)

/-- Flushes: emits the scripted flush event, if any, and yields once; then the scripted
result. -/
def producerFlush : Act (Except Fault Unit) := do
  let e ← Proc.modifyGet fun w => let (e, p) := w.producer.startFlush; (e, { w with producer := p })
  match e with
  | some e =>
    emit e
    Proc.yieldNow
  | none => pure ()
  let r ← Proc.modifyGet fun w => let (r, p) := w.producer.finishFlush; (r, { w with producer := p })
  pure (match r with
    | some e => .error e
    | none => .ok ())

/-! ## The event bridge -/

/-- The bridge: counts client errors of receiver `rx` until the session's scope is cancelled
or the bus closes. -/
def producerBridge (rx : Nat) : Act Unit :=
  Proc.iterate () fun _ => do
    if ← Proc.gets World.scopeCancelled then return .inr ()
    let r ← Proc.modifyGet fun w => let (r, b) := w.bus.recv rx; (r, { w with bus := b })
    match r with
    | .event (.clientError _) =>
      Proc.modify fun w => { w with clientErrors := w.clientErrors + 1 }
      return .inl ()
    | .event _ => return .inl ()
    | .lagged _ => return .inl ()
    | .closed => return .inr ()
    | .empty =>
      Proc.waitUntil fun w => w.bus.hasNews rx || w.scopeCancelled
      return .inl ()

/-- Starts the event bridge once. The bridge holds its receiver for as long as it runs: the
receiver is dropped however the bridge stops. -/
def startProducerBridge : Act Unit := do
  if ← Proc.gets (·.bridged) then return
  Proc.modify fun w => { w with bridged := true }
  let rx ← subscribe
  Proc.fork (withReceiver rx (producerBridge rx))

/-! ## Operations -/

/-- Connects the session and waits for the connection to be ready. -/
def connectProducer (c : SessionConfig) : Act (Except Fault Unit) := do
  if ← Proc.gets (·.closed) then return .error Fault.closed
  startProducerBridge
  let rx ← subscribe
  let token ← childToken (← Proc.gets (·.scope))
  withReceiver rx do
  match ← retryRacing .connectError .connect none producerConnect c.maxRetries with
  | .ok (some ()) =>
    let r ← awaitOnce rx .ready (some c.connectTimeout) true token
    pure (match r with
      | .error e => .error e
      | .ok (.fired _) => .ok ()
      | .ok .cancelled => .error Fault.closed
      | .ok .timedOut => .error (Fault.timeout c.connectTimeout))
  | .ok none =>
    cancel token
    pure (.error Fault.closed)
  | .error e =>
    cancel token
    pure (.error e)

/-- Closes the session for good and disconnects. -/
def disconnectProducer : Act (Except Fault Unit) := do
  if ← Proc.gets (·.closed) then return .ok ()
  Proc.modify fun w => { w with closed := true }
  cancel (← Proc.gets (·.scope))
  Proc.modify fun w => { w with producer := { w.producer with connected := false } }
  emit .disconnected
  pure (.ok ())

/-- Enqueues the records and flushes them; the number of records. -/
def produce (c : SessionConfig) (records : List Record) : Act (Except Fault Nat) := do
  if ← Proc.gets (·.closed) then return .ok 0
  let rx ← subscribe
  let token ← childToken (← Proc.gets (·.scope))
  withReceiver rx do
  let mut failures := []
  for r in records do
    let topic := r.topic.getD c.topic
    let e ← Proc.modifyGet fun w =>
      let (e, p) := w.producer.enqueue topic r
      (e, { w with producer := p })
    match e with
    | some e => failures := failures ++ [e]
    | none => pure ()
  let flushed ← retry .any none producerFlush c.maxRetries
  cancel token
  match flushed with
  | .error e => return .error e
  | .ok _ =>
    match failures with
    | [] => return .ok records.length
    | first :: _ =>
      return .error (Fault.wrap s!"Failure to produce {failures.length} of {records.length} messages" first)

/-- The key of an item: the text at `field`, or the JSON text of any other value there. -/
def itemKey (field : Option String) (j : Json) : Option (List UInt8) :=
  match field with
  | none => none
  | some k => match j.field? k with
    | some (.str s) => some (Utf8.encode s)
    | some .null => none
    | some v => some (Utf8.encode (Json.write v))
    | none => none

/-- Writes every item as JSON and produces the records. -/
def produceJson (c : SessionConfig) (items : List JsonItem) (keyField : Option String) :
    Act (Except Fault Nat) :=
  let records := items.mapM fun i => match i with
    | .value j =>
      let r : Record := { payload := some (Utf8.encode (Json.write j)), key := itemKey keyField j }
      Except.ok r
    | .unwritable => .error unwritableFault
  match records with
  | .ok rs => produce c rs
  | .error e => pure (.error e)

end Act

end BrokerSession
