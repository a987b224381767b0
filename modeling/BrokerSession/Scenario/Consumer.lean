import BrokerSession.Scenario.Rebalance
import BrokerSession.Session.Consumer
import BrokerSession.Json.Read

/-!
# A scripted consuming session

Steps that either script the connection (push messages, script failures, emit events, drop
the connection silently) or call the session. Each step may bring connection steps that
happen at given times after it starts, for as long as it runs. After each step the other
processes run until they wait again and the session is reported.

A consumed window is handed out in one of three forms: whole messages, the payloads of the
messages that have one, or the payloads read as JSON, skipping those that are absent or do
not read (their offsets still count as consumed).
-/

namespace BrokerSession

/-- A step that scripts the consumer connection. -/
inductive ConsumerScript where
  | pushMessages (ms : List Message)
  | pushPullError (e : Fault)
  | pushConnectResult (e : Option Fault)
  | failCommit (p : Int) (e : Fault)
  | failSeek (p : Int) (e : Fault)
  | ackCommits (ack : Bool)
  | setPositions (ps : List Position)
  | setPartitions (ps : List Int)
  | emit (e : BrokerEvent) (count : Nat)
  | disconnectSilently
  deriving Repr

/-- How consumed messages are handed out. -/
inductive ConsumeMode where
  | raw
  | payloads
  | json
  deriving DecidableEq, Repr

/-- A step of a consuming session scenario. -/
inductive ConsumerStep where
  | script (s : ConsumerScript)
  | connect
  | disconnect
  | commit
  | rollback
  | retry
  | consume (maxSize maxWaitMs : Nat) (mode : ConsumeMode)
  | seek (p : Int) (o : Int)
  | topicPositions
  | partitionCount
  | handlePendingCommits
  | pendingCommits (p : Int)
  | sleep (ms : Nat)
  deriving Repr

/-- One consumed item. -/
inductive Consumed where
  | message (m : Message)
  | payload (bytes : List UInt8)
  | value (j : Json)
  deriving Repr

/-- What a step answers. -/
inductive ConsumerAnswer where
  | nothing
  | done (r : Except Fault Unit)
  | consumed (r : Except Fault (List Consumed))
  | positions (ps : List Position)
  | count (r : Except Fault Nat)
  | flag (b : Bool)
  | stalled
  deriving Repr

/-- The session after a step. -/
structure ConsumerSnapshot where
  connected : Bool
  closed : Bool
  rebalancing : Bool
  invalidCount : Nat
  bytesConsumed : Nat
  windowStarted : PartitionMap Int
  windowEnded : PartitionMap Int
  /-- partitions with unanswered commits -/
  pending : PartitionMap Nat
  assignment : List Partition
  commits : List Position
  seeks : List Position
  connectCount : Nat
  disconnectCount : Nat
  pullCount : Nat
  listeners : Nat
  elapsedMs : Nat

/-- A step's answer and the session after it. -/
structure ConsumerReport where
  answer : ConsumerAnswer
  snapshot : ConsumerSnapshot

namespace ConsumeMode

/-- The form of one message, if it is handed out. -/
def select : ConsumeMode → Message → Option Consumed
  | .raw, m => some (.message m)
  | .payloads, m => m.payload.map .payload
  | .json, m => match m.payload with
    | some bytes => match Json.readBytes bytes with
      | .ok j => some (.value j)
      | .error _ => none
    | none => none

end ConsumeMode

namespace Act

/-- Applies a connection script step. -/
def scriptConsumer : ConsumerScript → Act Unit
  | .pushMessages ms => Proc.modify fun w =>
    { w with consumer := { w.consumer with pulls := w.consumer.pulls ++ [.ok ms] } }
  | .pushPullError e => Proc.modify fun w =>
    { w with consumer := { w.consumer with pulls := w.consumer.pulls ++ [.error e] } }
  | .pushConnectResult e => Proc.modify fun w =>
    { w with consumer := { w.consumer with connectResults := w.consumer.connectResults ++ [e] } }
  | .failCommit p e => Proc.modify fun w =>
    { w with consumer := { w.consumer with
        commitFailures := pushFailure w.consumer.commitFailures p e } }
  | .failSeek p e => Proc.modify fun w =>
    { w with consumer := { w.consumer with seekFailures := pushFailure w.consumer.seekFailures p e } }
  | .ackCommits ack => Proc.modify fun w =>
    { w with consumer := { w.consumer with ackCommits := ack } }
  | .setPositions ps => Proc.modify fun w =>
    { w with consumer := { w.consumer with positions := ps } }
  | .setPartitions ps => Proc.modify fun w =>
    { w with consumer := { w.consumer with partitions := ps } }
  | .emit e n => Proc.modify fun w =>
    { w with bus := (List.replicate n e).foldl Bus.emit w.bus }
  | .disconnectSilently => Proc.modify fun w =>
    { w with consumer := { w.consumer with connected := false } }

/-- The process of one session step. -/
def consumerStep (c : SessionConfig) : ConsumerStep → Act ConsumerAnswer
  | .script s => do scriptConsumer s; pure .nothing
  | .connect => .done <$> connectConsumer c
  | .disconnect => .done <$> disconnectConsumer
  | .commit => .done <$> commit c
  | .rollback => .done <$> rollback c
  | .retry => .done <$> retryWindow c
  | .consume n ms mode => do
    let r ← consume c n ms
    pure (.consumed (r.map fun msgs => msgs.filterMap mode.select))
  | .seek p o => .done <$> seek c p o
  | .topicPositions => do pure (.positions ((← Proc.get).topicPositions c.topic))
  | .partitionCount => .count <$> partitionCount c
  | .handlePendingCommits => do
    pure (.flag ((← Proc.get).pendingUnderThreshold c.pendingCommitThreshold))
  | .pendingCommits p => do pure (.count (.ok ((← Proc.get).pendingOf p)))
  | .sleep ms => do Proc.sleep ms; pure .nothing

end Act

/-- The session in world `w` at time `t`. -/
def World.consumerSnapshot (w : World) (t : Nat) : ConsumerSnapshot :=
  { connected := !w.closed && w.consumer.connected, closed := w.closed,
    rebalancing := w.coordinator.isRebalancing, invalidCount := w.backoff.invalidCount,
    bytesConsumed := w.bytesConsumed, windowStarted := w.window.started,
    windowEnded := w.window.ended, pending := w.pending.filter (·.2 > 0),
    assignment := w.coordinator.assignment, commits := w.consumer.commits,
    seeks := w.consumer.seeks, connectCount := w.consumer.connectCount,
    disconnectCount := w.consumer.disconnectCount, pullCount := w.consumer.pullCount,
    listeners := w.bus.receiverCount, elapsedMs := t }

/-- Runs the steps of a consuming session; a step that cannot be read ends the run with its
reason. -/
def runConsumerSteps {ε : Type} (c : SessionConfig) :
    List (Except ε (Timed ConsumerStep ConsumerScript)) → List ConsumerReport →
      Act (Except ε (List ConsumerReport))
  | [], acc => pure (.ok acc.reverse)
  | .error e :: _, _ => pure (.error e)
  | .ok st :: rest, acc => do
    let r ← Act.guarded (Act.withDuring (Act.consumerStep c st.step) Act.scriptConsumer st.during)
    Proc.settleAll
    let w ← Proc.get
    let t ← Proc.now
    let report : ConsumerReport :=
      { answer := r.getD .stalled, snapshot := w.consumerSnapshot t }
    runConsumerSteps c rest (report :: acc)

/-- Runs a consuming session scenario. -/
def runConsumer {ε : Type} (c : SessionConfig)
    (steps : List (Except ε (Timed ConsumerStep ConsumerScript))) :
    Ending (Except ε (List ConsumerReport)) :=
  runScenario (World.fresh c.topic c.backoffSettings) (runConsumerSteps c steps [])

end BrokerSession
