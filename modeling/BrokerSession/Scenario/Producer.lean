import BrokerSession.Scenario.Basic
import BrokerSession.Session.Producer

/-!
# A scripted producing session

Steps that either script the producer connection (enqueue and flush failures, events
emitted during a flush or at once) or call the session. After each step the other processes
run until they wait again and the session is reported.
-/

namespace BrokerSession

/-- A step that scripts the producer connection. -/
inductive ProducerScript where
  | failNextEnqueue (e : Fault)
  | pushFlushResult (e : Option Fault)
  | emitOnFlush (e : BrokerEvent)
  | emit (e : BrokerEvent) (count : Nat)
  deriving Repr

/-- A step of a producing session scenario. -/
inductive ProducerStep where
  | script (s : ProducerScript)
  | connect
  | disconnect
  | produce (records : List Record)
  | produceJson (items : List JsonItem) (keyField : Option String)
  | sleep (ms : Nat)
  deriving Repr

/-- What a step answers. -/
inductive ProducerAnswer where
  | nothing
  | done (r : Except Fault Unit)
  | produced (r : Except Fault Nat)
  | stalled
  deriving Repr

/-- The session after a step. -/
structure ProducerSnapshot where
  closed : Bool
  connected : Bool
  clientErrors : Nat
  /-- every enqueued record with the topic it went to -/
  records : List (String × Record)
  flushCount : Nat
  connectCount : Nat
  listeners : Nat
  elapsedMs : Nat

/-- A step's answer and the session after it. -/
structure ProducerReport where
  answer : ProducerAnswer
  snapshot : ProducerSnapshot

namespace Act

/-- Applies a connection script step. -/
def scriptProducer : ProducerScript → Act Unit
  | .failNextEnqueue e => Proc.modify fun w =>
    { w with producer := { w.producer with enqueueFailures := w.producer.enqueueFailures ++ [e] } }
  | .pushFlushResult e => Proc.modify fun w =>
    { w with producer := { w.producer with flushResults := w.producer.flushResults ++ [e] } }
  | .emitOnFlush e => Proc.modify fun w =>
    { w with producer := { w.producer with flushEvents := w.producer.flushEvents ++ [e] } }
  | .emit e n => Proc.modify fun w =>
    { w with bus := (List.replicate n e).foldl Bus.emit w.bus }

/-- The process of one session step. -/
def producerStep (c : SessionConfig) : ProducerStep → Act ProducerAnswer
  | .script s => do scriptProducer s; pure .nothing
  | .connect => .done <$> connectProducer c
  | .disconnect => .done <$> disconnectProducer
  | .produce rs => .produced <$> produce c rs
  | .produceJson items key => .produced <$> produceJson c items key
  | .sleep ms => do Proc.sleep ms; pure .nothing

end Act

/-- The session in world `w` at time `t`. -/
def World.producerSnapshot (w : World) (t : Nat) : ProducerSnapshot :=
  { closed := w.closed, connected := w.producer.connected, clientErrors := w.clientErrors,
    records := w.producer.records, flushCount := w.producer.flushCount,
    connectCount := w.producer.connectCount, listeners := w.bus.receiverCount, elapsedMs := t }

/-- Runs the steps of a producing session. -/
def runProducerSteps (c : SessionConfig) : List ProducerStep → List ProducerReport →
    Act (List ProducerReport)
  | [], acc => pure acc.reverse
  | st :: rest, acc => do
    let r ← Act.guarded (Act.producerStep c st)
    Proc.settleAll
    let w ← Proc.get
    let t ← Proc.now
    runProducerSteps c rest ({ answer := r.getD .stalled, snapshot := w.producerSnapshot t } :: acc)

/-- Runs a producing session scenario. -/
def runProducer (c : SessionConfig) (steps : List ProducerStep) : Ending (List ProducerReport) :=
  runScenario (World.fresh c.topic c.backoffSettings) (runProducerSteps c steps [])

end BrokerSession
