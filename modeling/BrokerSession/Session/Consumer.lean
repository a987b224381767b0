import BrokerSession.Session.Retry
import BrokerSession.Session.Rebalance
import BrokerSession.Config

/-!
# The consuming session

A consuming session drives one window at a time over a scripted consumer connection:
`consume`, then `commit` (the window was processed) or `rollback` (rewind every partition to
where the window started), or `retryWindow`, which picks between the two by configuration.

Every broker action goes through the retry executor with the session's pre-check: the
session must be open, the connection is re-established if it was lost, ownership must be
stable, a client in a wrong state is given a pause of one second per recorded wrong state,
and a client judged stuck fails with `invalid_state`.

The judgement: healthy unless there were more empty windows than the threshold, at least the
minimum of wrong states, the connection is up and no rebalance is in flight; then distressed
below the maximum of wrong states, and stuck (fatal) at it.

The event bridge, started by the first `connect`, hands every event of the connection to the
rebalance coordinator and releases a pending commit for every commit the broker answered.
-/

namespace BrokerSession

/-- How a consumer that keeps returning nothing is judged. -/
inductive Verdict where
  | healthy
  | distressed
  | fatal
  deriving DecidableEq, Repr

/-- The judgement of a consumer in world `w`. -/
def SessionConfig.verdict (c : SessionConfig) (w : World) : Verdict :=
  let invalid := w.backoff.invalidCount
  if !(decide (w.emptyWindows > c.emptyWindowThreshold)) || !(decide (invalid ≥ c.invalidStateMin))
      || !w.consumer.connected || w.coordinator.isRebalancing then .healthy
  else if invalid < c.invalidStateMax then .distressed
  else .fatal

namespace PartitionMap

/-- The counts of unanswered commits with one more for partition `p`. -/
def addPending (m : PartitionMap Nat) (p : Int) : PartitionMap Nat :=
  m.insert p ((m.lookup p).getD 0 + 1)

/-- The counts of unanswered commits once an answer for `p` is handled: one less, never below
zero; an answer for a partition without a count is dropped. -/
def settlePending (m : PartitionMap Nat) (p : Int) : PartitionMap Nat :=
  match m.lookup p with
  | some n => m.insert p (n - 1)
  | none => m

end PartitionMap

namespace Act

/-! ## The scripted consumer connection -/

/-- Connects: success marks the connection up and emits `ready`; a failure emits
`connect_error` and is returned. -/
def consumerConnect : Act (Except Fault Unit) := do
  let r ← Proc.modifyGet fun w => let (r, c) := w.consumer.connect; (r, { w with consumer := c })
  match r with
  | none => emit .ready; pure (.ok ())
  | some e => emit (.connectError e); pure (.error e)

/-- Pulls at most `max` messages, waiting at most `timeoutMs` when the script is empty. -/
def consumerPull (max timeoutMs : Nat) : Act (Except Fault (List Message)) := do
  let r ← Proc.modifyGet fun w => let (r, c) := w.consumer.pull max; (r, { w with consumer := c })
  match r with
  | none => Proc.sleep timeoutMs; pure (.ok [])
  | some r => pure r

/-- Commits a position; with acknowledgements on, the broker's answer is emitted. -/
def consumerCommit (pos : Position) : Act (Except Fault Unit) := do
  let r ← Proc.modifyGet fun w => let (r, c) := w.consumer.commit pos; (r, { w with consumer := c })
  let ack ← Proc.gets (·.consumer.ackCommits)
  if ack then emit (.offsetCommit [pos] r)
  pure (match r with
    | some e => .error e
    | none => .ok ())

/-- Seeks to a position. -/
def consumerSeek (pos : Position) : Act (Except Fault Unit) := do
  let r ← Proc.modifyGet fun w => let (r, c) := w.consumer.seek pos; (r, { w with consumer := c })
  pure (match r with
    | some e => .error e
    | none => .ok ())

/-- Disconnects: the connection goes down and `disconnected` is emitted. -/
def consumerDisconnect : Act Unit := do
  Proc.modify fun w => { w with consumer := w.consumer.disconnect }
  emit .disconnected

/-! ## The event bridge -/

/-- Releases one pending commit of a partition that has an entry. -/
def releasePending (p : Int) : Act Unit :=
  Proc.modify fun w => { w with pending := w.pending.settlePending p }

/-- Hands one event to the coordinator and the commit bookkeeping. -/
def consumerEvent (c : SessionConfig) (e : BrokerEvent) : Act (Except Halt Unit) :=
  match e with
  | .rebalance (.revoke _) => revoke c.rebalanceCeiling
  | .rebalance (.assign ps) => do assign ps; pure (.ok ())
  | .offsetCommit ps _ => do
    for p in ps do
      if p.topic == c.topic then releasePending p.number
    pure (.ok ())
  | _ => pure (.ok ())

/-- One round of the bridge: unless the session's scope is cancelled, reads the next event of
receiver `rx` and handles it, or parks until there is news; `inr` stops the bridge. -/
def bridgeRound (c : SessionConfig) (rx : Nat) : Act (Unit ⊕ Unit) := do
  if ← Proc.gets World.scopeCancelled then return .inr ()
  let r ← Proc.modifyGet fun w => let (r, b) := w.bus.recv rx; (r, { w with bus := b })
  match r with
  | .event e =>
    match ← consumerEvent c e with
    | .ok () => return .inl ()
    | .error _ => return .inr ()
  | .lagged _ => return .inl ()
  | .closed => return .inr ()
  | .empty =>
    Proc.waitUntil fun w => w.bus.hasNews rx || w.scopeCancelled
    return .inl ()

/-- The bridge: handles every event of receiver `rx` in order until the session's scope is
cancelled or the bus closes. A panic while handling an event stops the bridge. -/
def consumerBridge (c : SessionConfig) (rx : Nat) : Act Unit :=
  Proc.iterate () fun _ => bridgeRound c rx

/-- Starts the event bridge once. The bridge holds its receiver for as long as it runs: the
receiver is dropped however the bridge stops. -/
def startConsumerBridge (c : SessionConfig) : Act Unit := do
  if ← Proc.gets (·.bridged) then return
  Proc.modify fun w => { w with bridged := true }
  let rx ← subscribe
  Proc.fork (withReceiver rx (consumerBridge c rx))

/-! ## Operations -/

/-- The end of the pre-check: waits for a stable assignment, pauses for a client in a wrong
state, then judges the client. -/
def judgeClient (c : SessionConfig) : Act (Except Fault Unit) := do
  awaitStable c.rebalanceCeiling
  let invalid ← Proc.gets (·.backoff.invalidCount)
  if invalid > 0 then
    if ← sleepUnlessCancelled (Span.ofMillis (1000 * invalid)) then return .error Fault.closed
  if c.verdict (← Proc.get) == .fatal then return .error Fault.invalidState
  return .ok ()

/-- The pre-check before every broker action. -/
def consumerCheck (c : SessionConfig) : Act (Except Fault Unit) := do
  if ← Proc.gets (·.closed) then return .error Fault.closed
  if !(← Proc.gets (·.consumer.connected)) then
    match ← consumerConnect with
    | .error e => return .error (Fault.wrap "Failure to reconnect" e)
    | .ok () => pure ()
  judgeClient c

/-- Connects the session and waits for the connection to be ready. -/
def connectConsumer (c : SessionConfig) : Act (Except Fault Unit) := do
  if ← Proc.gets (·.closed) then return .error Fault.closed
  startConsumerBridge c
  let rx ← subscribe
  let token ← childToken (← Proc.gets (·.scope))
  withReceiver rx do
  match ← retryRacing .connectError .connect none consumerConnect c.maxRetries with
  | .ok (some ()) =>
    let r ← awaitOnce rx .ready (some c.connectTimeout) true token
    pure (match r with
      | .error e => .error e
      | .ok (.fired _) => .ok ()
      | .ok .cancelled => .error Fault.closed
      | .ok .timedOut => .error (Fault.timeout c.connectTimeout))
  | .ok none =>
    cancel token
    pure (.error Fault.closed)
  | .error e =>
    cancel token
    pure (.error e)

/-- Closes the session for good: cancels every wait, timer and the bridge, then disconnects. -/
def disconnectConsumer : Act (Except Fault Unit) := do
  if ← Proc.gets (·.closed) then return .ok ()
  Proc.modify fun w => { w with closed := true }
  cancel (← Proc.gets (·.scope))
  disarmTimer
  consumerDisconnect
  pure (.ok ())

/-- Records a consumed batch in the window and the byte count. -/
def recordBatch (ms : List Message) : Act Unit := do
  for m in ms do
    let w ← Proc.get
    let window ← orHalt (w.window.record m.partition m.offset)
    Proc.set { w with window }
  let bytes := (ms.map Message.payloadSize).foldl (· + ·) 0
  Proc.modify fun w => { w with bytesConsumed := w.bytesConsumed + bytes }

/-- One pull of a window: at most `wanted` messages, waiting no later than `deadline` (nothing
when the deadline has passed). -/
def pullUntil (deadline wanted : Nat) : Act (Except Fault (List Message)) := do
  let t ← Proc.now
  consumerPull wanted (deadline - t)

/-- Pulls until `maxSize` messages or the deadline; the messages in pull order. -/
def consumeLoop (c : SessionConfig) (deadline maxSize : Nat) :
    Nat → List Message → Nat → Act (Except Fault (List Message × Nat))
  | 0, acc, pulled => pure (.ok (acc, pulled))
  | fuel + 1, acc, pulled => do
    if pulled ≥ maxSize then return .ok (acc, pulled)
    let wanted := maxSize - pulled
    match ← retryRacing .clientError .consume (some (consumerCheck c)) (pullUntil deadline wanted)
        c.maxRetries with
    | .error e => return .error e
    | .ok none => return .ok (acc, pulled)
    | .ok (some []) => return .ok (acc, pulled)
    | .ok (some batch) =>
      recordBatch batch
      let acc := acc ++ batch
      let pulled := pulled + batch.length
      if (← Proc.now) ≥ deadline then return .ok (acc, pulled)
      consumeLoop c deadline maxSize fuel acc pulled

/-- Counts one more empty window. The counter is 32 bits wide, as the wrong-state count is:
counting past its largest value stops the program. -/
def recordEmptyWindow : Act Unit := do
  let w ← Proc.get
  if w.emptyWindows < Backoff.countLimit then
    Proc.set { w with emptyWindows := w.emptyWindows + 1 }
  else halt .intOverflow

/-- Consumes one window: the messages, or the fault that ended it. An empty window counts
and may find the client stuck. -/
def consume (c : SessionConfig) (maxSize maxWaitMs : Nat) : Act (Except Fault (List Message)) := do
  let t ← Proc.now
  match ← consumeLoop c (t + maxWaitMs) maxSize (maxSize + 1) [] 0 with
  | .error e => pure (.error e)
  | .ok (ms, pulled) =>
    if pulled > 0 then
      Proc.modify fun w => { w with emptyWindows := 0, backoff := w.backoff.relieveInvalid.2 }
      return .ok ms
    recordEmptyWindow
    if c.verdict (← Proc.get) == .fatal then return .error Fault.invalidState
    return .ok ms

/-- The answer of a commit or rollback: a fatal failure as it is, other failures together. -/
def settleWindow (message : String) (failures : List Fault) : Except Fault Unit :=
  match failures with
  | [] => .ok ()
  | es => match es.find? Fault.isFatal with
    | some e => .error e
    | none => .error (Fault.aggregate message es)

/-- The faults among the answers of runs, in the runs' order. -/
def faultsOf {β : Type} (rs : List (Except Fault β)) : List Fault :=
  rs.filterMap fun r => match r with
    | .error e => some e
    | .ok _ => none

/-- Counts one more commit attempt of a partition. -/
def trackCommit (p : Int) : Act Unit :=
  Proc.modify fun w => { w with pending := w.pending.addPending p }

/-- The delay before the commit of the `index`th partition: `index` staggers and the jitter,
the share `u` of a stagger, drawn from `[0, 1)`. -/
def staggerDelayAt (c : SessionConfig) (index : Nat) (u : Binary64) : Except Halt Span := do
  let d ← c.commitStagger.mulNat index
  d.add (← c.commitStagger.scale u)

/-- The share of a stagger that runs draw for the jitter of a commit: the median of the even
draw, so that a delay reaches a limit exactly when it more likely than not does. -/
def jitterShare : Binary64 := Binary64.div (Binary64.ofNat 1) (Binary64.ofNat 2)

/-- The delay before the commit of the `index`th partition, with the jitter runs draw. -/
def staggerDelay (c : SessionConfig) (index : Nat) : Except Halt Span :=
  staggerDelayAt c index jitterShare

/-- One attempt at committing a position: counted as pending, then sent. -/
def commitAttempt (pos : Position) : Act (Except Fault Unit) := do
  trackCommit pos.number
  consumerCommit pos

/-- The commit of one partition, after its delay, under the retry executor. -/
def commitPartition (c : SessionConfig) (pos : Position) (d : Span) :
    Act (Except Fault (Option Unit)) := do
  Proc.sleep d.millisCeil
  retry .commit (some (consumerCheck c)) (commitAttempt pos) c.maxRetries

/-- Commits the end of every partition of the window, partitions side by side. -/
def commit (c : SessionConfig) : Act (Except Fault Unit) := do
  let w ← Proc.get
  let (positions, window) := w.window.flush .ended
  Proc.set { w with window }
  if positions.isEmpty then return .ok ()
  let delays ← orHalt ((positions.zipIdx.map fun (_, i) => staggerDelay c i).mapM id)
  let runs := (positions.zip delays).map fun (pos, d) => commitPartition c pos d
  let results ← Proc.all runs
  pure (settleWindow "Failure to commit offsets" (faultsOf results))

/-- Seeks every partition of the window back to where it started, partitions side by side;
a partition seeked successfully starts the window again there. -/
def rollback (c : SessionConfig) : Act (Except Fault Unit) := do
  let w ← Proc.get
  let (positions, window) := w.window.flush .started
  Proc.set { w with window }
  if positions.isEmpty then return .ok ()
  let runs := positions.map fun pos => retry .seek (some (consumerCheck c)) (consumerSeek pos) c.maxRetries
  let results ← Proc.all runs
  let mut failures := []
  for (pos, r) in positions.zip results do
    match r with
    | .ok (some ()) => Proc.modify fun w => { w with window := w.window.seek pos.number pos.offset }
    | .ok none => pure ()
    | .error e => failures := failures ++ [e]
  pure (settleWindow "Failure to rollback offsets" failures)

/-- Settles a window that failed downstream: rollback or commit, by configuration. -/
def retryWindow (c : SessionConfig) : Act (Except Fault Unit) :=
  if c.rollbackOnFailure then rollback c else commit c

/-- Moves the read position of one partition and restarts its window there. -/
def seek (c : SessionConfig) (p : Int) (o : Int) : Act (Except Fault Unit) := do
  let pos : Position := ⟨⟨c.topic, p⟩, o⟩
  match ← retry .seek (some (consumerCheck c)) (consumerSeek pos) c.maxRetries with
  | .error e => pure (.error e)
  | .ok none => pure (.ok ())
  | .ok (some ()) =>
    Proc.modify fun w => { w with window := w.window.seek p o }
    pure (.ok ())

/-- The number of partitions of a topic, by a metadata request. -/
def partitionCount (c : SessionConfig) : Act (Except Fault Nat) := do
  let fetch : Act (Except Fault (List Int)) := Proc.gets fun w => w.consumer.metadata
  match ← retry .metadata (some (consumerCheck c)) fetch c.maxRetries with
  | .error e => pure (.error e)
  | .ok none => pure (.ok 0)
  | .ok (some ps) => pure (.ok ps.length)

end Act

/-- The read positions of the session's topic. -/
def World.topicPositions (w : World) (topic : String) : List Position :=
  w.consumer.positions.filter (·.topic == topic)

/-- No partition has more unanswered commits than the threshold. -/
def World.pendingUnderThreshold (w : World) (threshold : Nat) : Bool :=
  w.pending.all fun (_, n) => n ≤ threshold

/-- The unanswered commits of a partition. -/
def World.pendingOf (w : World) (p : Int) : Nat := (w.pending.lookup p).getD 0

end BrokerSession
