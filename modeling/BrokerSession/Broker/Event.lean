import BrokerSession.Partition
import BrokerSession.Fault.Basic

/-!
# Broker events

A connection reports what happens outside the calls made on it as events: it became ready,
connecting or the client failed, partitions were assigned or revoked (or the rebalance
failed), the broker answered a commit, or the connection closed.

Waits ask for events by kind; `rebalance` covers assignment, revocation and rebalance
failure. An event may carry a fault: the fault of a connect, client or rebalance failure, and
the fault of a rejected commit.
-/

namespace BrokerSession

/-- A change of partition ownership. -/
inductive RebalanceSignal where
  /-- these partitions replace the assignment -/
  | assign (partitions : List Partition)
  /-- these partitions are being taken away -/
  | revoke (partitions : List Partition)
  /-- the broker reported a failed rebalance -/
  | failed (fault : Fault)
  deriving Repr

/-- An event reported by a connection. -/
inductive BrokerEvent where
  | ready
  | connectError (fault : Fault)
  | clientError (fault : Fault)
  | rebalance (signal : RebalanceSignal)
  /-- the broker accepted (no fault) or rejected a commit of these positions -/
  | offsetCommit (positions : List Position) (fault : Option Fault)
  | disconnected
  deriving Repr

/-- The kind of an event, as waits select them. -/
inductive EventKind where
  | ready
  | connectError
  | clientError
  | rebalance
  | offsetCommit
  | disconnected
  deriving DecidableEq, Repr

namespace EventKind

/-- The name of the kind. -/
def name : EventKind → String
  | .ready => "ready"
  | .connectError => "connect_error"
  | .clientError => "client_error"
  | .rebalance => "rebalance"
  | .offsetCommit => "offset_commit"
  | .disconnected => "disconnected"

end EventKind

namespace BrokerEvent

def kind : BrokerEvent → EventKind
  | .ready => .ready
  | .connectError _ => .connectError
  | .clientError _ => .clientError
  | .rebalance _ => .rebalance
  | .offsetCommit _ _ => .offsetCommit
  | .disconnected => .disconnected

/-- The fault the event carries. -/
def fault? : BrokerEvent → Option Fault
  | .connectError e => some e
  | .clientError e => some e
  | .rebalance (.failed e) => some e
  | .offsetCommit _ e => e
  | _ => none

end BrokerEvent

end BrokerSession
