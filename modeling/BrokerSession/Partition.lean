/-!
# Partitions and positions

A partition is a topic name with a partition number; a position adds an offset. Their texts
are `topic:p` and `topic:p@offset`.
-/

namespace BrokerSession

/-- A partition of a topic. -/
structure Partition where
  topic : String
  number : Int
  deriving DecidableEq, Repr

/-- A position in a partition. -/
structure Position where
  partition : Partition
  offset : Int
  deriving DecidableEq, Repr

namespace Partition

/-- `topic:p` -/
def text (p : Partition) : String := s!"{p.topic}:{p.number}"

end Partition

namespace Position

def topic (p : Position) : String := p.partition.topic

def number (p : Position) : Int := p.partition.number

/-- `topic:p@offset` -/
def text (p : Position) : String := s!"{p.partition.text}@{p.offset}"

end Position

end BrokerSession
