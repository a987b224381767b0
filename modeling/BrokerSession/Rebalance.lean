import BrokerSession.Partition

/-!
# The rebalance coordinator

A consuming session owns its partitions only between rebalances. The coordinator is stable
or rebalancing. A revocation while stable starts a rebalance and arms a timer; while
rebalancing it changes nothing. An assignment replaces the assignment wholesale, disarms the
timer and makes the coordinator stable. The timer, when it expires while the coordinator is
still rebalancing, makes it stable too ("the rebalance took too long").

This module holds the coordinator's own state; growing the shared backoff, arming and
running the timer are the session's processes (`BrokerSession.Session.Rebalance`).
-/

namespace BrokerSession

/-- Whether a rebalance is in flight. -/
inductive RebalancePhase where
  | stable
  | rebalancing
  deriving DecidableEq, Repr

namespace RebalancePhase

def name : RebalancePhase → String
  | .stable => "stable"
  | .rebalancing => "rebalancing"

end RebalancePhase

/-- The coordinator's state: the phase, the current assignment, and the cancellation token
of the armed timer. -/
structure Coordinator where
  phase : RebalancePhase := .stable
  assignment : List Partition := []
  timer : Option Nat := none
  deriving DecidableEq, Repr

namespace Coordinator

def isRebalancing (c : Coordinator) : Bool := c.phase == .rebalancing

/-- A new assignment: it replaces the old one and the coordinator is stable. -/
def assign (c : Coordinator) (ps : List Partition) : Coordinator :=
  { c with assignment := ps, phase := .stable, timer := none }

/-- A revocation while stable: rebalancing, with the timer guarded by `token`. -/
def startRebalance (c : Coordinator) (token : Nat) : Coordinator :=
  { c with phase := .rebalancing, timer := some token }

/-- The timer expired: stable if still rebalancing. -/
def expire (c : Coordinator) : Coordinator :=
  if c.isRebalancing then { c with phase := .stable } else c

/-- Forgets the armed timer. -/
def disarm (c : Coordinator) : Coordinator := { c with timer := none }

end Coordinator

end BrokerSession
