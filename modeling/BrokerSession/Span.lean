import BrokerSession.Binary64.Basic
import BrokerSession.Halt

/-!
# Spans of time

A span is a whole number of nanoseconds below `2^64` seconds. Sums and multiples that
reach `2^64` seconds stop the program (`Halt`). Scaling a span by a double goes through
seconds: the span becomes the double nearest to its length in seconds (whole seconds
rounded first, then the fraction added), that is multiplied by the factor, and the product
is turned back into the nearest whole number of nanoseconds, a tie going to the even count.

Timers count whole milliseconds, so a span used as a delay lasts `millisCeil` ticks.
-/

namespace BrokerSession

/-- A span of time in nanoseconds; its whole seconds fit in 64 bits. -/
structure Span where
  nanos : Nat
  deriving DecidableEq, Repr, Inhabited

namespace Span

/-- Nanoseconds per second. -/
def nanosPerSec : Nat := 1000000000

/-- The first length that is out of range: `2^64` seconds. -/
def limit : Nat := Nat.pow 2 64 * nanosPerSec

def zero : Span := ⟨0⟩

def ofMillis (ms : Nat) : Span := ⟨ms * 1000000⟩

/-- Whole milliseconds, rounded down. -/
def millisFloor (d : Span) : Nat := d.nanos / 1000000

/-- Whole milliseconds, rounded up: the timer ticks a delay of this length lasts. -/
def millisCeil (d : Span) : Nat := (d.nanos + 999999) / 1000000

instance : LE Span := ⟨fun a b => a.nanos ≤ b.nanos⟩

instance (a b : Span) : Decidable (a ≤ b) := inferInstanceAs (Decidable (a.nanos ≤ b.nanos))

instance : Min Span := ⟨fun a b => if a.nanos ≤ b.nanos then a else b⟩

instance : Max Span := ⟨fun a b => if a.nanos ≤ b.nanos then b else a⟩

/-- The sum, or `spanAddOverflow` from `2^64` seconds on. -/
def add (a b : Span) : Except Halt Span :=
  if a.nanos + b.nanos < limit then .ok ⟨a.nanos + b.nanos⟩ else .error .spanAddOverflow

/-- The span `k` times over, or `spanMulOverflow` from `2^64` seconds on. -/
def mulNat (a : Span) (k : Nat) : Except Halt Span :=
  if a.nanos * k < limit then .ok ⟨a.nanos * k⟩ else .error .spanMulOverflow

/-- The length in seconds as a double: the whole seconds rounded to a double, plus the
fraction rounded to a double, the sum rounded once more. -/
def toSeconds (d : Span) : Binary64 :=
  Binary64.add (Binary64.ofNat (d.nanos / nanosPerSec))
    (Binary64.div (Binary64.ofNat (d.nanos % nanosPerSec)) (Binary64.ofNat nanosPerSec))

/-- The span nearest to a number of seconds, a tie going to the even count of nanoseconds.
Not finite or from `2^64` seconds on is `secondsOutOfRange`; below zero (other than `-0.0`)
is `secondsNegative`. -/
def ofSeconds (x : Binary64) : Except Halt Span :=
  if x.isNaN then .error .secondsOutOfRange
  else if x.signBit && !x.isZero then .error .secondsNegative
  else if x.isInfinite then .error .secondsOutOfRange
  else
    let m := x.significand
    let q := x.exponent
    -- |x| ≥ 2^64 exactly when m * 2^q ≥ 2^64
    if Binary64.scaledAtLeast m 1 q 64 then .error .secondsOutOfRange
    else .ok ⟨Binary64.scaledRound (m * nanosPerSec) 1 q⟩

/-- The span scaled by a double: `ofSeconds (f * toSeconds d)`. -/
def scale (d : Span) (f : Binary64) : Except Halt Span :=
  ofSeconds (Binary64.mul f d.toSeconds)

end Span

end BrokerSession
