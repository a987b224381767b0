import BrokerSession.Fault.Basic

/-!
# How a fault is handled

Each broker action has a set of codes that are acceptable for it: such a fault is swallowed.
End of partition and "no error" are acceptable everywhere; a fault without a code never is.
A fault is *retryable* when its code is one of the transient codes, and it signals a
*wrong state* when its code is the erroneous-state code. `classify` decides in that order:
acceptable (benign), wrong state, retryable, and otherwise fatal.
-/

namespace BrokerSession

/-- The kind of broker action a fault happened in. -/
inductive ActionKind where
  | consume
  | commit
  | produce
  | connect
  | seek
  | metadata
  | retryable
  | any
  deriving DecidableEq, Repr

namespace ActionKind

/-- The action's name. -/
def name : ActionKind → String
  | .consume => "consume"
  | .commit => "commit"
  | .produce => "produce"
  | .connect => "connect"
  | .seek => "seek"
  | .metadata => "metadata"
  | .retryable => "retryable"
  | .any => "any"

/-- The verb of failure messages, `Failure to <verb>`. -/
def verb : ActionKind → String
  | .metadata => "fetch metadata"
  | .retryable | .any => "execute action"
  | k => k.name

/-- Codes that are acceptable for every action. -/
def alwaysOkay : List Int := [Code.partitionEof, Code.noError]

/-- The transient codes. -/
def transientCodes : List Int :=
  [Code.transport, Code.resolve, Code.msgTimedOut, Code.allBrokersDown, Code.timedOut,
   Code.queueFull, Code.waitCoord, Code.wrongState, Code.timedOutQueue, Code.maxPollExceeded,
   Code.leaderNotAvailable, Code.notLeaderForPartition, Code.requestTimedOut,
   Code.brokerNotAvailable, Code.networkException, Code.coordinatorLoadInProgress,
   Code.coordinatorNotAvailable, Code.notCoordinator, Code.rebalanceInProgress]

/-- Codes acceptable for this action, on top of `alwaysOkay`. -/
def acceptable : ActionKind → List Int
  | .consume => [Code.timedOutQueue]
  | .commit => [Code.noOffset, Code.assignPartitions, Code.revokePartitions, Code.assignmentLost]
  | .retryable => transientCodes
  | .any => alwaysOkay
  | .produce | .connect | .seek | .metadata => []

end ActionKind

/-- How the retry loop treats a fault. -/
inductive FaultClass where
  /-- acceptable for the action: swallowed -/
  | benign
  /-- transient, and a sign that the client is in a wrong state -/
  | wrongState
  /-- transient: retried after a backoff -/
  | retryable
  /-- surfaced at once -/
  | fatal
  deriving DecidableEq, Repr

def FaultClass.name : FaultClass → String
  | .benign => "benign"
  | .wrongState => "wrong_state"
  | .retryable => "retryable"
  | .fatal => "fatal"

namespace Fault

/-- The fault's code is acceptable for the action. -/
def isOkay (e : Fault) (a : ActionKind) : Bool :=
  match e.code with
  | none => false
  | some c => ActionKind.alwaysOkay.contains c || (a.acceptable).contains c

def isRetryable (e : Fault) : Bool := e.isOkay .retryable

def isWrongState (e : Fault) : Bool := e.code == some Code.wrongState

/-- Benign before wrong state before retryable; fatal otherwise. -/
def classify (e : Fault) (a : ActionKind) : FaultClass :=
  if e.isOkay a then .benign
  else if e.isWrongState then .wrongState
  else if e.isRetryable then .retryable
  else .fatal

end Fault

end BrokerSession
