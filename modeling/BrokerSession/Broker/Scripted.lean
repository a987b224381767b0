import BrokerSession.Offsets
import BrokerSession.Broker.Event
import BrokerSession.Broker.Failure

/-!
# Scripted connections

In-memory stand-ins for a broker connection, driven by scripts. Their state is plain data
and every operation here is a pure function on it; emitting events and sleeping are done by
the processes that call them.

The consumer side:
* `connect` takes the next scripted connect result; when the script is empty it fails with
  the connection's `refusal`, if it has one, and succeeds otherwise;
* `pull` takes the next script entry: a batch gives at most the asked number of messages and
  puts the rest back in front, an error is returned as it is, and an empty script means an
  idle topic (the caller sleeps out its timeout and gets nothing);
* `commit` and `seek` take the next failure scripted for the partition; a call that does not
  fail is recorded;
* metadata lists the configured partitions (`[0]` unless set), or fails with the
  connection's `metadataFailure`.

The producer side connects unless it has a `refusal`, and answers metadata requests like the
consumer side. It records every enqueued record with its resolved topic, unless the next
enqueue failure is scripted. A flush takes the next scripted flush result and, if one is
scripted, an event to emit during the flush.

A connection to a broker that cannot be reached has a `refusal` and a `metadataFailure`, and
a producer's records stay in its `queue`: an enqueue is held to the queue's limits, and a
flush with records queued, none scripted, times out.
-/

namespace BrokerSession

/-- A consumed message. -/
structure Message where
  topic : String
  partition : Int
  offset : Int
  key : Option (List UInt8) := none
  payload : Option (List UInt8) := none
  timestamp : Option Int := none
  deriving DecidableEq, Repr

/-- The number of payload bytes of a message. -/
def Message.payloadSize (m : Message) : Nat := (m.payload.map List.length).getD 0

/-- An outbound record; without a topic it goes to the session's topic. -/
structure Record where
  topic : Option String := none
  key : Option (List UInt8) := none
  payload : Option (List UInt8) := none
  timestamp : Option Int := none
  deriving DecidableEq, Repr

/-- A scripted consumer connection. -/
structure ScriptedConsumer where
  connected : Bool := false
  /-- `none` is a successful connect -/
  connectResults : List (Option Fault) := []
  pulls : List (Except Fault (List Message)) := []
  commitFailures : PartitionMap (List Fault) := []
  seekFailures : PartitionMap (List Fault) := []
  ackCommits : Bool := false
  commits : List Position := []
  seeks : List Position := []
  positions : List Position := []
  partitions : List Int := [0]
  /-- the failure of every connect that is not scripted -/
  refusal : Option Fault := none
  /-- the failure of every metadata request -/
  metadataFailure : Option Fault := none
  connectCount : Nat := 0
  disconnectCount : Nat := 0
  pullCount : Nat := 0

/-- Takes the first scripted failure of a partition. -/
def takeFailure (m : PartitionMap (List Fault)) (p : Int) : Option Fault × PartitionMap (List Fault) :=
  match m.lookup p with
  | some (e :: rest) => (some e, m.insert p rest)
  | _ => (none, m)

/-- Adds a failure at the back of a partition's queue. -/
def pushFailure (m : PartitionMap (List Fault)) (p : Int) (e : Fault) : PartitionMap (List Fault) :=
  m.insert p ((m.lookup p).getD [] ++ [e])

namespace ScriptedConsumer

/-- Counts a connect and takes its scripted result, or else the refusal; success marks the
connection up. -/
def connect (c : ScriptedConsumer) : Option Fault × ScriptedConsumer :=
  let c := { c with connectCount := c.connectCount + 1 }
  match c.connectResults with
  | [] =>
    match c.refusal with
    | some e => (some e, c)
    | none => (none, { c with connected := true })
  | r :: rest =>
    let c := { c with connectResults := rest }
    match r with
    | none => (none, { c with connected := true })
    | some e => (some e, c)

/-- Counts a pull and takes its script entry: `none` when the script is empty. A batch gives
at most `max` messages and keeps the rest for the next pull. -/
def pull (c : ScriptedConsumer) (max : Nat) :
    Option (Except Fault (List Message)) × ScriptedConsumer :=
  let c := { c with pullCount := c.pullCount + 1 }
  match c.pulls with
  | [] => (none, c)
  | .error e :: rest => (some (.error e), { c with pulls := rest })
  | .ok ms :: rest =>
    if max < ms.length then
      (some (.ok (ms.take max)), { c with pulls := .ok (ms.drop max) :: rest })
    else (some (.ok ms), { c with pulls := rest })

/-- A commit of a position: its scripted failure, or success recorded. -/
def commit (c : ScriptedConsumer) (pos : Position) : Option Fault × ScriptedConsumer :=
  match takeFailure c.commitFailures pos.number with
  | (some e, fs) => (some e, { c with commitFailures := fs })
  | (none, _) => (none, { c with commits := c.commits ++ [pos] })

/-- A seek to a position: its scripted failure, or success recorded. -/
def seek (c : ScriptedConsumer) (pos : Position) : Option Fault × ScriptedConsumer :=
  match takeFailure c.seekFailures pos.number with
  | (some e, fs) => (some e, { c with seekFailures := fs })
  | (none, _) => (none, { c with seeks := c.seeks ++ [pos] })

/-- Counts a disconnect and marks the connection down. -/
def disconnect (c : ScriptedConsumer) : ScriptedConsumer :=
  { c with disconnectCount := c.disconnectCount + 1, connected := false }

/-- The partitions of the topic, by a metadata request. -/
def metadata (c : ScriptedConsumer) : Except Fault (List Int) :=
  match c.metadataFailure with
  | some e => .error e
  | none => .ok c.partitions

end ScriptedConsumer

/-- A scripted producer connection. -/
structure ScriptedProducer where
  connected : Bool := false
  /-- every enqueued record with the topic it went to -/
  records : List (String × Record) := []
  enqueueFailures : List Fault := []
  /-- `none` is a successful flush -/
  flushResults : List (Option Fault) := []
  flushEvents : List BrokerEvent := []
  /-- the failure of every connect -/
  refusal : Option Fault := none
  /-- the failure of every metadata request -/
  metadataFailure : Option Fault := none
  /-- records stay queued, within these limits -/
  queue : Option QueueLimits := none
  connectCount : Nat := 0
  flushCount : Nat := 0

/-- The number of bytes of an optional key or payload. -/
def byteCount (b : Option (List UInt8)) : Nat := (b.map List.length).getD 0

namespace ScriptedProducer

/-- Counts a connect; the connection is up unless it is refused. -/
def connect (p : ScriptedProducer) : Option Fault × ScriptedProducer :=
  let p := { p with connectCount := p.connectCount + 1 }
  match p.refusal with
  | some e => (some e, p)
  | none => (none, { p with connected := true })

/-- The partitions of a topic, by a metadata request: one partition unless it fails. -/
def metadata (p : ScriptedProducer) : Except Fault (List Int) :=
  match p.metadataFailure with
  | some e => .error e
  | none => .ok [0]

/-- The payload bytes of the queued records. -/
def queuedBytes (p : ScriptedProducer) : Nat :=
  p.records.foldl (fun n (_, r) => n + byteCount r.payload) 0

/-- Enqueues a record for `topic`, unless the next enqueue failure is scripted or the queue
refuses it. -/
def enqueue (p : ScriptedProducer) (topic : String) (r : Record) : Option Fault × ScriptedProducer :=
  match p.enqueueFailures with
  | e :: rest => (some e, { p with enqueueFailures := rest })
  | [] =>
    let refused := p.queue.bind fun l =>
      l.refusal topic (byteCount r.key) (byteCount r.payload) p.records.length p.queuedBytes
    match refused with
    | some f => (some f.toFault, p)
    | none => (none, { p with records := p.records ++ [(topic, r)] })

/-- Counts a flush and takes the event to emit during it, if one is scripted. -/
def startFlush (p : ScriptedProducer) : Option BrokerEvent × ScriptedProducer :=
  let p := { p with flushCount := p.flushCount + 1 }
  match p.flushEvents with
  | e :: rest => (some e, { p with flushEvents := rest })
  | [] => (none, p)

/-- The scripted result of a flush; without one, a flush times out while records are
queued. -/
def finishFlush (p : ScriptedProducer) : Option Fault × ScriptedProducer :=
  match p.flushResults with
  | r :: rest => (r, { p with flushResults := rest })
  | [] =>
    if p.queue.isSome && !p.records.isEmpty then
      (some (ClientFailure.flush Code.timedOut).toFault, p)
    else (none, p)

end ScriptedProducer

end BrokerSession
