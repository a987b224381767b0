/-!
# Arithmetic faults that stop the program

Some arithmetic has no answer inside its type: an offset one past the largest 64-bit
offset, a span of time beyond `2^64` seconds, a number of seconds that is not finite. The
program does not wrap or saturate in those places; it stops, and the whole run ends with the
fault's text. `Halt` names each such fault, and `Halt.message` is its text.
-/

namespace BrokerSession

/-- An arithmetic fault that ends the run. -/
inductive Halt where
  /-- A checked integer addition left its type. -/
  | intOverflow
  /-- The sum of two spans of time is `2^64` seconds or more. -/
  | spanAddOverflow
  /-- A span of time times a count is `2^64` seconds or more. -/
  | spanMulOverflow
  /-- A number of seconds is not finite or is `2^64` or more. -/
  | secondsOutOfRange
  /-- A number of seconds is negative. -/
  | secondsNegative
  deriving DecidableEq, Repr

/-- The text a run ends with. -/
def Halt.message : Halt → String
  | .intOverflow => "attempt to add with overflow"
  | .spanAddOverflow => "overflow when adding durations"
  | .spanMulOverflow => "overflow when multiplying duration by scalar"
  | .secondsOutOfRange => "cannot convert float seconds to Duration: value is either too big or NaN"
  | .secondsNegative => "cannot convert float seconds to Duration: value is negative"

end BrokerSession
