import BrokerSession.Binary64.Shortest

/-!
# Numbers in setting values

A client reads the numbers in its setting values by the rules of its platform's standard
library, and prints them back in its messages the same way.

* A whole number may follow blanks (space, tab, line feed, vertical tab, form feed, carriage
  return) and one sign. `0x` or `0X` followed by a hexadecimal digit starts a hexadecimal
  number; any other leading `0` starts an octal one; otherwise the number is decimal. Reading
  stops at the first character that is not a digit of the base. A number beyond the 64-bit
  range reads as the nearest end of that range. A text with no digit reads as nothing
  (`readWhole`). The settings keep the low 32 bits of what was read, as a signed number
  (`wrap32`).
* A decimal number may follow blanks and one sign. It is `inf`, `infinity` or `nan` in any
  case; or a hexadecimal fraction with an optional binary exponent (`0x1.8p3`); or digits
  with an optional point and an optional decimal exponent. It is rounded to the nearest
  double, a tie going to the even one (`readDecimal`).
* A double is printed in the general six-digit form (`Binary64.generalText`). It is rounded
  to six significant digits, ties to even. It is positional when its decimal exponent lies
  between -4 and 5, and `d.ddddde±XX` otherwise. Trailing zeros of the fraction and a bare
  point are dropped.
-/

namespace BrokerSession

namespace Numeral

/-- The blanks skipped before a number. -/
def isBlank (b : UInt8) : Bool :=
  b == 32 || (9 ≤ b && b ≤ 13)

/-- The value of a digit in bases up to sixteen. -/
def digitValue (b : UInt8) : Option Nat :=
  if 48 ≤ b && b ≤ 57 then some (b.toNat - 48)
  else if 97 ≤ b && b ≤ 102 then some (b.toNat - 87)
  else if 65 ≤ b && b ≤ 70 then some (b.toNat - 55)
  else none

/-- The digit value of `b` if it is a digit of `base`. -/
def digitIn (base : Nat) (b : UInt8) : Option Nat :=
  match digitValue b with
  | some d => if d < base then some d else none
  | none => none

/-- The leading digits of `base`, as their values, and what follows them. -/
def takeDigits (base : Nat) : List UInt8 → List Nat × List UInt8
  | [] => ([], [])
  | b :: rest =>
    match digitIn base b with
    | some d => let (ds, r) := takeDigits base rest; (d :: ds, r)
    | none => ([], b :: rest)

/-- The number written by digit values in `base`, most significant first. -/
def valueIn (base : Nat) (ds : List Nat) : Nat := ds.foldl (fun acc d => acc * base + d) 0

/-- An optional sign: whether it is `-`, and the rest. -/
def takeSign : List UInt8 → Bool × List UInt8
  | 45 :: rest => (true, rest)
  | 43 :: rest => (false, rest)
  | s => (false, s)

/-- `x` or `X`. -/
def isX (b : UInt8) : Bool := b == 120 || b == 88

/-- The unsigned whole number at the start of `s`, after any sign: `none` without a digit. -/
def readMagnitude : List UInt8 → Option Nat
  | 48 :: x :: rest =>
    if isX x then
      let (ds, _) := takeDigits 16 rest
      -- `0x` without a hexadecimal digit is the number `0`
      some (valueIn 16 ds)
    else some (valueIn 8 (takeDigits 8 (x :: rest)).1)
  | [48] => some 0
  | s =>
    let (ds, _) := takeDigits 10 s
    if ds.isEmpty then none else some (valueIn 10 ds)

/-- The largest 64-bit signed number. -/
def wholeMax : Int := Int.pow 2 63 - 1

/-- The whole number a setting text starts with, held to the 64-bit signed range; `none`
when the text has no digit where a number may start. -/
def readWhole (text : String) : Option Int :=
  let s := text.toUTF8.toList.dropWhile isBlank
  let (neg, s) := takeSign s
  (readMagnitude s).map fun n =>
    if neg then max (-(n : Int)) (-wholeMax - 1) else min (n : Int) wholeMax

/-- The low 32 bits of `n`, read as a signed number. -/
def wrap32 (n : Int) : Int :=
  (n + Int.pow 2 31).emod (Int.pow 2 32) - Int.pow 2 31

/-- The quiet not-a-number with the given sign. -/
def notANumber (neg : Bool) : Binary64 :=
  ⟨(if neg then Nat.pow 2 63 else 0) + 2047 * Nat.pow 2 52 + Nat.pow 2 51⟩

/-- Whether `s` starts with the letters of `word`, in any case. -/
def startsWithWord (s : List UInt8) (word : String) : Bool :=
  let w := word.toUTF8.toList
  w.length ≤ s.length &&
    ((s.take w.length).zip w).all fun (a, b) => a == b || (65 ≤ a && a ≤ 90 && a + 32 == b)

/-- An optional exponent, `e`/`p` already matched: its signed value if it has a digit. -/
def readExponent (s : List UInt8) : Option Int :=
  let (neg, s) := takeSign s
  let (ds, _) := takeDigits 10 s
  if ds.isEmpty then none
  else
    let v : Int := valueIn 10 ds
    some (if neg then -v else v)

/-- The digits of a fraction in `base`: integer digits, then those after an optional point,
and what follows. -/
def readFraction (base : Nat) (s : List UInt8) : List Nat × List Nat × List UInt8 :=
  let (whole, s) := takeDigits base s
  match s with
  | 46 :: rest => let (frac, s) := takeDigits base rest; (whole, frac, s)
  | _ => (whole, [], s)

/-- The double nearest to `m * 10 ^ e`, with a sign. -/
def decimalValue (neg : Bool) (m : Nat) (e : Int) : Binary64 :=
  let digits : Int := (toString m).length
  if m = 0 then Binary64.ofRatio neg 0 1 0
  else if e + digits > 400 then Binary64.infinity neg
  else if e + digits < -400 then Binary64.ofRatio neg 0 1 0
  else if 0 ≤ e then Binary64.ofRatio neg (m * Nat.pow 10 e.toNat) 1 0
  else Binary64.ofRatio neg m (Nat.pow 10 (-e).toNat) 0

/-- The double nearest to `m * 2 ^ e`, with a sign. -/
def binaryValue (neg : Bool) (m : Nat) (e : Int) : Binary64 :=
  let bits : Int := Nat.log2 m
  if m = 0 then Binary64.ofRatio neg 0 1 0
  else if e + bits > 1100 then Binary64.infinity neg
  else if e + bits < -1200 then Binary64.ofRatio neg 0 1 0
  else Binary64.ofRatio neg m 1 e

/-- A decimal or hexadecimal number without sign, `0x` already matched: `none` without a
hexadecimal digit. -/
def readHexadecimal (neg : Bool) (s : List UInt8) : Option Binary64 :=
  let (whole, frac, rest) := readFraction 16 s
  if whole.isEmpty && frac.isEmpty then none
  else
    let m := valueIn 16 (whole ++ frac)
    let p := match rest with
      | b :: r => if b == 112 || b == 80 then (readExponent r).getD 0 else 0
      | [] => 0
    some (binaryValue neg m (p - 4 * (frac.length : Int)))

/-- A decimal number without sign: `none` without a digit. -/
def readPlain (neg : Bool) (s : List UInt8) : Option Binary64 :=
  let (whole, frac, rest) := readFraction 10 s
  if whole.isEmpty && frac.isEmpty then none
  else
    let m := valueIn 10 (whole ++ frac)
    let e := match rest with
      | b :: r => if b == 101 || b == 69 then (readExponent r).getD 0 else 0
      | [] => 0
    some (decimalValue neg m (e - (frac.length : Int)))

/-- The decimal number a setting text starts with; `none` when nothing there reads as one. -/
def readDecimal (text : String) : Option Binary64 :=
  let s := text.toUTF8.toList.dropWhile isBlank
  let (neg, s) := takeSign s
  if startsWithWord s "inf" then some (Binary64.infinity neg)
  else if startsWithWord s "nan" then some (notANumber neg)
  else
    match s with
    | 48 :: x :: rest =>
      if isX x then
        match readHexadecimal neg rest with
        | some v => some v
        -- `0x` without a hexadecimal digit is the number `0`
        | none => some (decimalValue neg 0 0)
      else readPlain neg s
    | _ => readPlain neg s

end Numeral

namespace Binary64

/-- `|x| / 10 ^ g` rounded to the nearest whole number, ties to even, for a finite `x`. -/
def roundedOverPow10 (x : Binary64) (g : Int) : Nat :=
  let q := x.exponent
  let num := x.significand * Nat.pow 2 q.toNat * Nat.pow 10 (-g).toNat
  let den := Nat.pow 2 (-q).toNat * Nat.pow 10 g.toNat
  roundHalfEven num den

/-- Digits without their trailing zeros. -/
def dropTrailingZeros (ds : List Char) : List Char :=
  (ds.reverse.dropWhile (· == '0')).reverse

/-- A fraction part: `.` and the digits, or nothing when no digit is left. -/
def fractionText (ds : List Char) : String :=
  match dropTrailingZeros ds with
  | [] => ""
  | ds => "." ++ String.ofList ds

/-- An exponent with its sign and at least two digits. -/
def exponentText (e : Int) : String :=
  let digits := toString e.natAbs
  (if e < 0 then "e-" else "e+") ++ (if digits.length < 2 then "0" ++ digits else digits)

/-- The general six-digit text of a double. -/
def generalText (x : Binary64) : String :=
  if x.isNaN then (if x.signBit then "-nan" else "nan")
  else if x.isInfinite then (if x.signBit then "-inf" else "inf")
  else
    let sign := if x.signBit then "-" else ""
    if x.isZero then sign ++ "0"
    else
      let k := x.decimalScale
      let q := x.roundedOverPow10 (k - 6)
      let (q, k) := if q = Nat.pow 10 6 then (Nat.pow 10 5, k + 1) else (q, k)
      let e := k - 1
      let ds := (toString q).toList
      let body :=
        if e < -4 ∨ 6 ≤ e then
          String.ofList (ds.take 1) ++ fractionText (ds.drop 1) ++ exponentText e
        else if 0 ≤ e then
          String.ofList (ds.take (e.toNat + 1)) ++ fractionText (ds.drop (e.toNat + 1))
        else
          "0" ++ fractionText (List.replicate ((-e).toNat - 1) '0' ++ ds)
      sign ++ body

end Binary64

end BrokerSession
