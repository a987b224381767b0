import BrokerSession.Scenario.Basic
import BrokerSession.Session.Consumer
import BrokerSession.Session.Producer
import BrokerSession.Client.Connection

/-!
# Sessions over created clients

A client scenario creates broker clients from their settings and calls them, step by step.
At most one producer and one consumer exist at a time; creating one replaces the one before,
and a creation that fails keeps it. A call with no client answers that there is none.

A created client gets a session of its own with its own world (`ClientSession`). A session
call (connect, disconnect, produce, partition count) runs as a scenario on that world, and
the world it leaves is the one the next call starts from. A call on the connection itself
(metadata, enqueue, flush) is a plain function of the connection.

The clients' brokers cannot be reached (`unreachableProducer`, `unreachableConsumer`), so
taking the broker down or up changes nothing.
-/

namespace BrokerSession

/-- The bootstrap address the clients are given. -/
def clusterAddress : String := "localhost:9092"

/-- A call on the producer client. -/
inductive ProducerCall where
  /-- the session connects -/
  | connect
  /-- the session disconnects -/
  | disconnect
  /-- the session enqueues the records and flushes them -/
  | produce (records : List Record)
  /-- the connection asks for a topic's partitions, the session's topic unless one is named -/
  | fetchMetadata (topic : Option String)
  /-- the connection enqueues one record for a topic, the session's unless one is named -/
  | enqueue (topic : Option String) (r : Record)
  /-- the connection flushes its queue -/
  | flush
  deriving Repr

/-- A call on the consumer client. -/
inductive ConsumerCall where
  /-- the session connects -/
  | connect
  /-- the session disconnects -/
  | disconnect
  /-- the session counts the partitions of its topic -/
  | partitionCount
  /-- the session commits what it has consumed -/
  | commit
  /-- the connection asks for a topic's partitions, the session's topic unless one is named -/
  | fetchMetadata (topic : Option String)
  deriving Repr

/-- A step of a client scenario. -/
inductive ClientStep where
  /-- creates a producer with the session settings and the client settings, in order, over
  TLS when `tls` holds -/
  | createProducer (session : SessionConfig) (tls : Bool) (settings : List (String × String))
  /-- creates a consumer in `group`, with the session settings and the client settings, over
  TLS when `tls` holds -/
  | createConsumer (session : SessionConfig) (group : String) (offsetReset : Option String)
      (tls : Bool) (settings : List (String × String))
  | brokerDown
  | brokerUp
  | producer (call : ProducerCall)
  | consumer (call : ConsumerCall)

/-- What a step answers. -/
inductive ClientAnswer where
  | nothing
  | done (r : Except Fault Unit)
  | count (r : Except Fault Nat)
  /-- the partitions of a topic -/
  | metadata (topic : String) (r : Except Fault (List Int))
  | noProducer
  | noConsumer
  | stalled
  deriving Repr

/-- The fault of a client that could not be created. -/
def ClientRefusal.toFault (r : ClientRefusal) : Fault := Fault.ofKind .broker r.message

/-- A created client: its session's settings and world. -/
structure ClientSession where
  config : SessionConfig
  world : World

namespace ClientSession

/-- Runs a session call to its end: its value (`none` when it stalled) and the session after
it, or the panic that ended it. -/
def run {α : Type} (s : ClientSession) (act : Act α) : Except Halt (Option α × ClientSession) :=
  let main : Act (Option α × World) := do
    let a ← Act.guarded act
    Proc.settleAll
    pure (a, ← Proc.get)
  match runScenario s.world main with
  | .finished (a, w) => .ok (a, { s with world := w })
  | .panicked h => .error h
  | .stuck => .ok (none, s)

/-- Runs a session call whose value is an answer. -/
def answer {α : Type} (s : ClientSession) (act : Act α) (f : α → ClientAnswer) :
    Except Halt (ClientAnswer × ClientSession) :=
  (s.run act).map fun (a, s) => ((a.map f).getD .stalled, s)

/-- Applies a pure call on the producer connection. -/
def onProducer {α : Type} (s : ClientSession) (f : ScriptedProducer → α × ScriptedProducer) :
    α × ClientSession :=
  let (a, p) := f s.world.producer
  (a, { s with world := { s.world with producer := p } })

end ClientSession

/-- The clients of a scenario. -/
structure ClientScene where
  producer : Option ClientSession := none
  consumer : Option ClientSession := none

/-- The answer of a connection call that may fail. -/
def doneOf (e : Option Fault) : ClientAnswer :=
  .done (match e with
    | some e => .error e
    | none => .ok ())

/-- A producer call on a session. -/
def ProducerCall.apply (s : ClientSession) : ProducerCall → Except Halt (ClientAnswer × ClientSession)
  | .connect => s.answer (Act.connectProducer s.config) .done
  | .disconnect => s.answer Act.disconnectProducer .done
  | .produce rs => s.answer (Act.produce s.config rs) .count
  | .fetchMetadata t => .ok (.metadata (t.getD s.config.topic) s.world.producer.metadata, s)
  | .enqueue t r =>
    .ok (s.onProducer fun p => let (e, p) := p.enqueue (t.getD s.config.topic) r; (doneOf e, p))
  | .flush => .ok (s.onProducer fun p => let (e, p) := p.finishFlush; (doneOf e, p))

/-- A consumer call on a session. -/
def ConsumerCall.apply (s : ClientSession) : ConsumerCall → Except Halt (ClientAnswer × ClientSession)
  | .connect => s.answer (Act.connectConsumer s.config) .done
  | .disconnect => s.answer Act.disconnectConsumer .done
  | .partitionCount => s.answer (Act.partitionCount s.config) .count
  | .commit => s.answer (Act.commit s.config) .done
  | .fetchMetadata t => .ok (.metadata (t.getD s.config.topic) s.world.consumer.metadata, s)

/-- The settings of a client, applied in order after the defaults. -/
def withSettings (c : ClientConfig) (settings : List (String × String)) : ClientConfig :=
  settings.foldl (fun c (k, v) => c.set k v) c

namespace ClientScene

/-- Runs one step: its answer and the clients after it, or the panic that ended it. -/
def step (s : ClientScene) : ClientStep → Except Halt (ClientAnswer × ClientScene)
  | .createProducer c tls settings =>
    let base := (ClientConfig.forProducer clusterAddress).withTls tls
    match (withSettings base settings).create .producer with
    | .error r => .ok (.done (.error r.toFault), s)
    | .ok o =>
      let w := { World.fresh c.topic c.backoffSettings with producer := unreachableProducer o }
      .ok (.done (.ok ()), { s with producer := some ⟨c, w⟩ })
  | .createConsumer c group reset tls settings =>
    let base := ClientConfig.forConsumer clusterAddress group
    let base := match reset with
      | some policy => base.withOffsetReset policy
      | none => base
    let base := base.withTls tls
    match (withSettings base settings).create .consumer with
    | .error r => .ok (.done (.error r.toFault), s)
    | .ok _ =>
      let w := { World.fresh c.topic c.backoffSettings with consumer := unreachableConsumer c.topic }
      .ok (.done (.ok ()), { s with consumer := some ⟨c, w⟩ })
  | .brokerDown | .brokerUp => .ok (.nothing, s)
  | .producer call =>
    match s.producer with
    | none => .ok (.noProducer, s)
    | some p => (call.apply p).map fun (a, p) => (a, { s with producer := some p })
  | .consumer call =>
    match s.consumer with
    | none => .ok (.noConsumer, s)
    | some c => (call.apply c).map fun (a, c) => (a, { s with consumer := some c })

end ClientScene

/-- How a client scenario ended. -/
inductive ClientRun where
  | answers (as : List ClientAnswer)
  /-- a step could not be read -/
  | unreadable (why : String)
  | panicked (h : Halt)

/-- Runs the steps of a client scenario in order; a step that could not be read, or a panic,
ends it. -/
def runClientSteps : List (Except String ClientStep) → ClientScene → List ClientAnswer → ClientRun
  | [], _, acc => .answers acc.reverse
  | .error why :: _, _, _ => .unreadable why
  | .ok st :: rest, s, acc =>
    match s.step st with
    | .error h => .panicked h
    | .ok (a, s) => runClientSteps rest s (a :: acc)

/-- Runs a client scenario from no clients. -/
def runClients (steps : List (Except String ClientStep)) : ClientRun :=
  runClientSteps steps {} []

end BrokerSession
