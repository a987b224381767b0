import BrokerSession.Partition
import BrokerSession.Halt

/-!
# The offset window of a consuming session

Per partition the window keeps where it started (the first offset consumed, where a
rollback seeks back to) and where it ended (one past the last offset consumed, what a commit
stores). Both sides are association lists sorted by partition number.

* `record p o` keeps the first start of `p` and sets its end to `o + 1`; the end of the largest
  64-bit offset has no value and stops the program;
* `flush side` hands out one side sorted by partition and clears both;
* `seek p o` restarts `p` at `o`, forgetting its end.
-/

namespace BrokerSession

/-- Which side of the window. -/
inductive WindowSide where
  | started
  | ended
  deriving DecidableEq, Repr

/-- Largest 64-bit offset. -/
def maxOffset : Int := Int.pow 2 63 - 1

/-- A map from partition numbers, sorted by key, one entry per key. -/
abbrev PartitionMap (α : Type) := List (Int × α)

namespace PartitionMap

variable {α : Type}

/-- Sets the value of `k`, keeping the list sorted. -/
def insert (m : PartitionMap α) (k : Int) (v : α) : PartitionMap α :=
  match m with
  | [] => [(k, v)]
  | (k', v') :: rest =>
    if k < k' then (k, v) :: (k', v') :: rest
    else if k = k' then (k, v) :: rest
    else (k', v') :: insert rest k v

/-- Sets the value of `k` unless it has one. -/
def insertIfAbsent (m : PartitionMap α) (k : Int) (v : α) : PartitionMap α :=
  match m.lookup k with
  | some _ => m
  | none => m.insert k v

def erase (m : PartitionMap α) (k : Int) : PartitionMap α := m.filter (·.1 != k)

end PartitionMap

/-- The offset window of one topic. -/
structure OffsetWindow where
  topic : String
  started : PartitionMap Int := []
  ended : PartitionMap Int := []
  deriving DecidableEq, Repr

namespace OffsetWindow

/-- Records a consumed offset. -/
def record (w : OffsetWindow) (p : Int) (o : Int) : Except Halt OffsetWindow :=
  if o < maxOffset then
    .ok { w with started := w.started.insertIfAbsent p o, ended := w.ended.insert p (o + 1) }
  else .error .intOverflow

/-- The positions of one side, sorted by partition, and the cleared window. -/
def flush (w : OffsetWindow) (side : WindowSide) : List Position × OffsetWindow :=
  let entries := match side with
    | .started => w.started
    | .ended => w.ended
  (entries.map fun (p, o) => ⟨⟨w.topic, p⟩, o⟩, { w with started := [], ended := [] })

/-- Restarts the window of `p` at `o`, as after a seek. -/
def seek (w : OffsetWindow) (p : Int) (o : Int) : OffsetWindow :=
  { w with started := w.started.insert p o, ended := w.ended.erase p }

def startOf (w : OffsetWindow) (p : Int) : Option Int := w.started.lookup p

def endOf (w : OffsetWindow) (p : Int) : Option Int := w.ended.lookup p

def isEmpty (w : OffsetWindow) : Bool := w.started.isEmpty && w.ended.isEmpty

/-- Partitions with a start. -/
def partitionCount (w : OffsetWindow) : Nat := w.started.length

end OffsetWindow

end BrokerSession
