import BrokerSession.Binary64.Basic

/-!
# Shortest decimal digits of a double

A positive finite double stands for every real that rounds to it: the interval from halfway
to its lower neighbour to halfway to its upper neighbour, both ends included exactly when
the significand is even (a tie then rounds back to it). The shortest decimal of the value is
a decimal with the fewest significant digits inside that interval; among the candidates of
that length the one nearest the value is taken, and an exact tie goes to the even digit
string.

The search follows the definition: for `n = 1, 2, …, 17` significant digits, the only
candidates on the grid `10 ^ (k - n)` are the two grid points around the value, and the first
grid that has one inside the interval gives the answer. All comparisons are exact products of
natural numbers.
-/

namespace BrokerSession

/-- A decimal number `digits * 10 ^ exp`. -/
structure Decimal where
  digits : Nat
  exp : Int
  deriving DecidableEq, Repr

/-- Moves trailing zero digits into the exponent. -/
def Decimal.strip (d : Decimal) : Decimal :=
  go 20 d
where
  go : Nat → Decimal → Decimal
    | 0, d => d
    | fuel + 1, d =>
      if d.digits ≠ 0 ∧ d.digits % 10 = 0 then go fuel ⟨d.digits / 10, d.exp + 1⟩ else d

namespace Binary64

/-- Compares `a * 10^i` with `n * 2^j`, exactly. -/
def cmpScaled (a : Nat) (i : Int) (n : Nat) (j : Int) : Ordering :=
  compare (a * Nat.pow 10 i.toNat * Nat.pow 2 (-j).toNat) (n * Nat.pow 2 j.toNat * Nat.pow 10 (-i).toNat)

/-- The gap to the value below is half the gap to the value above: the significand is a
power of two and the value is not in the lowest binade. -/
def narrowBelow (x : Binary64) : Bool := x.fracField = 0 ∧ x.expField > 1

/-- The decimal `d` lies in the interval of reals that round to the positive finite `x`. -/
def readsBack (x : Binary64) (d : Decimal) : Bool :=
  let m := x.significand
  let lo := if x.narrowBelow then 4 * m - 1 else 4 * m - 2
  let hi := 4 * m + 2
  let incl := m % 2 == 0
  let cl := cmpScaled d.digits d.exp lo (x.exponent - 2)
  let ch := cmpScaled d.digits d.exp hi (x.exponent - 2)
  (cl == .gt || (incl && cl == .eq)) && (ch == .lt || (incl && ch == .eq))

/-- `⌊|x| / 10^g⌋` for a finite `x`. -/
def floorOverPow10 (x : Binary64) (g : Int) : Nat :=
  let q := x.exponent
  let num := x.significand * Nat.pow 2 q.toNat * Nat.pow 10 (-g).toNat
  let den := Nat.pow 2 (-q).toNat * Nat.pow 10 g.toNat
  num / den

/-- Whether `|x| < 10^k`. -/
def belowPow10 (x : Binary64) (k : Int) : Bool :=
  cmpScaled 1 k x.significand x.exponent == .gt

/-- The least `k` with `|x| < 10^k`, for a nonzero finite `x`: an estimate from the binary
logarithm, corrected by the few exact comparisons it can be off by. -/
def decimalScale (x : Binary64) : Int :=
  let lg : Int := (Nat.log2 x.significand : Int) + x.exponent
  let k0 : Int := (lg * 30103).fdiv 100000 + 1
  let up := fun (k : Int) => if x.belowPow10 k then k else k + 1
  let down := fun (k : Int) => if x.belowPow10 (k - 1) then k - 1 else k
  down (down (up (up k0)))

/-- The candidate of `n` significant digits, if one of the two grid points around `|x|`
reads back; of two, the nearer, and on an exact tie the even one. -/
def candidate (x : Binary64) (k : Int) (n : Nat) : Option Decimal :=
  let g := k - n
  let lo := x.floorOverPow10 g
  let dLo : Decimal := ⟨lo, g⟩
  let dHi : Decimal := ⟨lo + 1, g⟩
  match x.readsBack dLo, x.readsBack dHi with
  | true, true =>
    -- compare 2|x| with the midpoint (2 lo + 1) * 10^g
    match cmpScaled (2 * lo + 1) g (2 * x.significand) x.exponent with
    | .gt => some dLo
    | .lt => some dHi
    | .eq => some (if lo % 2 = 0 then dLo else dHi)
  | true, false => some dLo
  | false, true => some dHi
  | false, false => none

/-- The exact decimal value of a finite `|x|`, used only if no shorter decimal is found. -/
def exactDecimal (x : Binary64) : Decimal :=
  let q := x.exponent
  if 0 ≤ q then ⟨x.significand * Nat.pow 2 q.toNat, 0⟩
  else ⟨x.significand * Nat.pow 5 (-q).toNat, q⟩

/-- The shortest decimal that reads back as the nonzero finite `|x|`, trailing zeros moved
into the exponent. -/
def shortest (x : Binary64) : Decimal :=
  let k := x.decimalScale
  let found := (List.range 17).findSome? fun i => x.candidate k (i + 1)
  Decimal.strip (found.getD x.exactDecimal)

end Binary64

end BrokerSession
