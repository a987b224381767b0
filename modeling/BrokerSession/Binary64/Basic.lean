/-!
# Binary64 values and correctly rounded arithmetic

An IEEE 754 double is held as its 64-bit pattern. Arithmetic never goes through a machine
float: every operation forms its exact rational result from the two operands' significands
and exponents, then rounds that result once to the nearest representable value, a tie going
to the even significand. That is the rounding the standard prescribes for `+`, `*`, `/` and
for converting an integer, so the bit patterns here are exactly the ones hardware computes.

Main definitions:

* `Binary64.ofRatio neg n d e` rounds `±n * 2^e / d`;
* `Binary64.ofNat`, `mul`, `div`, `add` are the rounded operations built on it.
-/

namespace BrokerSession

/-- Rounds `n / d` to the nearest natural number, a tie going to the even one. -/
def roundHalfEven (n d : Nat) : Nat :=
  let q := n / d
  let r := n % d
  if 2 * r > d ∨ (2 * r = d ∧ q % 2 = 1) then q + 1 else q

/-- A double-precision value, held as its IEEE 754 bit pattern (below `2^64`). -/
structure Binary64 where
  bits : Nat
  deriving DecidableEq, Repr, Inhabited

namespace Binary64

/-- The biased exponent field. -/
def expField (x : Binary64) : Nat := (x.bits / Nat.pow 2 52) % 2048

/-- The stored fraction field. -/
def fracField (x : Binary64) : Nat := x.bits % Nat.pow 2 52

/-- The sign bit is set (this includes `-0.0`). -/
def signBit (x : Binary64) : Bool := x.bits / Nat.pow 2 63 % 2 = 1

/-- Neither an infinity nor a NaN. -/
def isFinite (x : Binary64) : Bool := x.expField ≠ 2047

def isNaN (x : Binary64) : Bool := x.expField = 2047 ∧ x.fracField ≠ 0

def isInfinite (x : Binary64) : Bool := x.expField = 2047 ∧ x.fracField = 0

/-- The integer significand of a finite value: `|x| = significand * 2 ^ exponent`. -/
def significand (x : Binary64) : Nat :=
  if x.expField = 0 then x.fracField else x.fracField + Nat.pow 2 52

/-- The binary exponent of a finite value's least significant bit. -/
def exponent (x : Binary64) : Int :=
  if x.expField = 0 then -1074 else (x.expField : Int) - 1075

/-- Zero of either sign. -/
def isZero (x : Binary64) : Bool := x.bits % Nat.pow 2 63 = 0

def zero : Binary64 := ⟨0⟩

def infinity (neg : Bool) : Binary64 := ⟨(if neg then Nat.pow 2 63 else 0) + 2047 * Nat.pow 2 52⟩

/-- The value with the sign flipped. -/
def neg (x : Binary64) : Binary64 :=
  ⟨if x.signBit then x.bits - Nat.pow 2 63 else x.bits + Nat.pow 2 63⟩

/-- Whether `n * 2^e ≥ d * 2^k`, decided in natural numbers. -/
def scaledAtLeast (n d : Nat) (e k : Int) : Bool :=
  if k ≤ e then n * Nat.pow 2 (e - k).toNat ≥ d else n ≥ d * Nat.pow 2 (k - e).toNat

/-- `n * 2^s / d` rounded to the nearest natural number, ties to even. -/
def scaledRound (n d : Nat) (s : Int) : Nat :=
  if 0 ≤ s then roundHalfEven (n * Nat.pow 2 s.toNat) d
  else roundHalfEven n (d * Nat.pow 2 (-s).toNat)

/-- The double nearest to `n * 2^e / d`, with the sign given by `neg`; a tie goes to the even
significand. Values from `2^1024` on (after rounding) become an infinity and values below
half the least subnormal become a zero. `d` must be positive. -/
def ofRatio (neg : Bool) (n d : Nat) (e : Int) : Binary64 :=
  let sign := if neg then Nat.pow 2 63 else 0
  if n = 0 then ⟨sign⟩
  else
    let k0 : Int := (Nat.log2 n : Int) - (Nat.log2 d : Int) + e
    -- the binade: `2^k ≤ n * 2^e / d < 2^(k+1)`
    let k := if scaledAtLeast n d e k0 then k0 else k0 - 1
    let u := max (k - 52) (-1074)
    let m := scaledRound n d (e - u)
    let (m, u) := if m = Nat.pow 2 53 then (Nat.pow 2 52, u + 1) else (m, u)
    if u > 971 then infinity neg
    else if m < Nat.pow 2 52 then ⟨sign + m⟩
    else ⟨sign + (u + 1075).toNat * Nat.pow 2 52 + (m - Nat.pow 2 52)⟩

/-- The double nearest to a natural number. -/
def ofNat (n : Nat) : Binary64 := ofRatio false n 1 0

/-- The rounded product of two finite values. -/
def mul (x y : Binary64) : Binary64 :=
  ofRatio (x.signBit != y.signBit) (x.significand * y.significand) 1 (x.exponent + y.exponent)

/-- The rounded quotient of two finite values; the divisor must not be zero. -/
def div (x y : Binary64) : Binary64 :=
  ofRatio (x.signBit != y.signBit) x.significand y.significand (x.exponent - y.exponent)

/-- The signed exact value of a finite double, as an integer times `2 ^ e` for a given
`e` no larger than its exponent. -/
def scaledInt (x : Binary64) (e : Int) : Int :=
  let v : Int := x.significand * Nat.pow 2 (x.exponent - e).toNat
  if x.signBit then -v else v

/-- The rounded sum of two finite values. An exact zero sum is `+0.0`, except that two
negative zeros add to `-0.0`. -/
def add (x y : Binary64) : Binary64 :=
  let e := min x.exponent y.exponent
  let s := x.scaledInt e + y.scaledInt e
  if s = 0 then ⟨if x.signBit && y.signBit then Nat.pow 2 63 else 0⟩
  else ofRatio (s < 0) s.natAbs 1 e

/-- `10 ^ i` rounded to the nearest double. -/
def pow10 (i : Nat) : Binary64 := ofRatio false (Nat.pow 10 i) 1 0

end Binary64

end BrokerSession
