import BrokerSession.Json.Value
import BrokerSession.Text.Utf8

/-!
# Reading JSON

`Json.read` reads one JSON document from bytes. Blanks are space, tab, line feed and carriage
return; anything but blanks after the document is refused. Nesting is limited: the 128th
array or object opened inside others is refused. Strings must be valid UTF-8, may not hold
raw control characters, and take the escapes `\" \\ \/ \b \f \n \r \t \uXXXX`, a surrogate
only as half of a proper pair.

Numbers keep their form (see `JsonNumber`). An integer is kept while its digits fit 64 bits;
from the digit that would overflow on, the remaining digits only scale it by ten. A number
with a fraction or an exponent becomes a double in two roundings: the significand (at most
the digits that fit 64 bits) is rounded to a double, and that is multiplied or divided once
by the double nearest to the power of ten (by `1e308` repeatedly below `1e-308`). A result
that overflows is refused as out of range; a value with a too large exponent written out is
refused unless its significand is zero, and one with a too small exponent is zero.
-/

namespace BrokerSession

/-- Why bytes are no JSON document. -/
inductive JsonErrorCode where
  | eofWhileParsingValue
  | eofWhileParsingList
  | eofWhileParsingObject
  | eofWhileParsingString
  | expectedColon
  | expectedListCommaOrEnd
  | expectedObjectCommaOrEnd
  | expectedSomeIdent
  | expectedSomeValue
  | invalidEscape
  | invalidNumber
  | numberOutOfRange
  | invalidUnicodeCodePoint
  | controlCharacterWhileParsingString
  | keyMustBeAString
  | loneLeadingSurrogateInHexEscape
  | trailingComma
  | trailingCharacters
  | unexpectedEndOfHexEscape
  | recursionLimitExceeded
  deriving DecidableEq, Repr

def JsonErrorCode.text : JsonErrorCode → String
  | .eofWhileParsingValue => "EOF while parsing a value"
  | .eofWhileParsingList => "EOF while parsing a list"
  | .eofWhileParsingObject => "EOF while parsing an object"
  | .eofWhileParsingString => "EOF while parsing a string"
  | .expectedColon => "expected `:`"
  | .expectedListCommaOrEnd => "expected `,` or `]`"
  | .expectedObjectCommaOrEnd => "expected `,` or `\x7d`"
  | .expectedSomeIdent => "expected ident"
  | .expectedSomeValue => "expected value"
  | .invalidEscape => "invalid escape"
  | .invalidNumber => "invalid number"
  | .numberOutOfRange => "number out of range"
  | .invalidUnicodeCodePoint => "invalid unicode code point"
  | .controlCharacterWhileParsingString =>
    "control character (\\u0000-\\u001F) found while parsing a string"
  | .keyMustBeAString => "key must be a string"
  | .loneLeadingSurrogateInHexEscape => "lone leading surrogate in hex escape"
  | .trailingComma => "trailing comma"
  | .trailingCharacters => "trailing characters"
  | .unexpectedEndOfHexEscape => "unexpected end of hex escape"
  | .recursionLimitExceeded => "recursion limit exceeded"

/-- A reading error at a byte index of the input. -/
structure JsonError where
  code : JsonErrorCode
  index : Nat
  deriving DecidableEq, Repr

namespace JsonError

/-- The error with its line and column in `input`: the line counts line feeds before the
index, the column counts the bytes since the last one. -/
def describe (e : JsonError) (input : List UInt8) : String :=
  let before := input.take e.index
  let lines := before.count 10
  let column := (before.reverse.takeWhile (· != 10)).length
  s!"{e.code.text} at line {lines + 1} column {column}"

end JsonError

namespace JsonRead

/-- Bytes not yet read; the index of the next one is `total - rest.length`. -/
abbrev Rest := List UInt8

/-- A step of reading: a value and the bytes after it, or an error. -/
abbrev Step (α : Type) := Except JsonError (α × Rest)

def isBlank (b : UInt8) : Bool := b == 32 || b == 9 || b == 10 || b == 13

def isDigit (b : UInt8) : Bool := 48 ≤ b.toNat ∧ b.toNat ≤ 57

def digitVal (b : UInt8) : Nat := b.toNat - 48

def skipBlanks (r : Rest) : Rest := r.dropWhile isBlank

/-- An error at the position of the next byte. -/
def errAt {α : Type} (total : Nat) (r : Rest) (c : JsonErrorCode) : Except JsonError α :=
  .error ⟨c, total - r.length⟩

/-- An error that points one past the next byte, as a look at it does. -/
def peekErr {α : Type} (total : Nat) (r : Rest) (c : JsonErrorCode) : Except JsonError α :=
  .error ⟨c, min (total - r.length + 1) total⟩

/-- The largest 64-bit value. -/
def u64Max : Nat := Nat.pow 2 64 - 1

/-- `acc * 10 + d` would exceed `2^64 - 1`. -/
def overflows (acc d : Nat) : Bool := acc * 10 + d > u64Max

/-- The double nearest to `significand * 10 ^ exponent`, in the two roundings the module
comment describes; `none` when it overflows. -/
def floatOfParts (positive : Bool) (significand : Nat) (exponent : Int) : Option Binary64 :=
  let f := Binary64.ofNat significand
  let f := go 4 f exponent
  f.map fun f => if positive then f else f.neg
where
  go : Nat → Binary64 → Int → Option Binary64
    | 0, f, _ => some f
    | fuel + 1, f, e =>
      if e.natAbs ≤ 308 then
        if 0 ≤ e then
          let g := Binary64.mul f (Binary64.pow10 e.toNat)
          if g.isInfinite then none else some g
        else some (Binary64.div f (Binary64.pow10 e.natAbs))
      else if f.isZero then some f
      else if 0 ≤ e then none
      else go fuel (Binary64.div f (Binary64.pow10 308)) (e + 308)

/-- A double from its parts, or the out-of-range error at the current position. -/
def finishFloat (total : Nat) (positive : Bool) (sig : Nat) (e : Int) (r : Rest) :
    Step JsonNumber :=
  match floatOfParts positive sig e with
  | some x => .ok (.float x, r)
  | none => errAt total r .numberOutOfRange

/-- Clamps to the 32-bit signed range, as a saturating exponent sum does. -/
def clampExp (e : Int) : Int := max (-Int.pow 2 31) (min (Int.pow 2 31 - 1) e)

/-- Reads the digits of an exponent after `e`, the sign already read. -/
def readExponent (total : Nat) (positive : Bool) (sig : Nat) (start : Int) (expPositive : Bool) :
    Rest → Step JsonNumber
  | [] => errAt total [] .eofWhileParsingValue
  | b :: r =>
    if !isDigit b then errAt total r .invalidNumber
    else
      let (digits, after) := r.span isDigit
      let exp := digits.foldl (fun acc d => acc * 10 + digitVal d) (digitVal b)
      if exp > Nat.pow 2 31 - 1 then
        -- too many digits: zero or out of range
        if sig ≠ 0 ∧ expPositive then errAt total after .numberOutOfRange
        else .ok (.float (if positive then Binary64.zero else Binary64.zero.neg), after)
      else
        let e := clampExp (if expPositive then start + exp else start - exp)
        finishFloat total positive sig e after

/-- After the significand: an exponent part or the end of the number. -/
def readExponentOrEnd (total : Nat) (positive : Bool) (sig : Nat) (e : Int) (r : Rest) :
    Step JsonNumber :=
  match r with
  | b :: r' =>
    if b == 101 || b == 69 then
      match r' with
      | 43 :: r'' => readExponent total positive sig e true r''
      | 45 :: r'' => readExponent total positive sig e false r''
      | _ => readExponent total positive sig e true r'
    else finishFloat total positive sig e r
  | [] => finishFloat total positive sig e r

/-- Digits after the point, accumulated while they fit 64 bits and skipped after that. -/
def readFraction (total : Nat) (positive : Bool) (sig : Nat) (e : Int) (r : Rest) :
    Step JsonNumber :=
  let (digits, after) := r.span isDigit
  if digits.isEmpty then
    match after with
    | [] => peekErr total after .eofWhileParsingValue
    | _ => peekErr total after .invalidNumber
  else
    let step := fun (st : Nat × Int × Bool) (d : UInt8) =>
      let (acc, ex, full) := st
      if full || overflows acc (digitVal d) then (acc, ex, true)
      else (acc * 10 + digitVal d, ex - 1, false)
    let (acc, ex, _) := digits.foldl step (sig, e, false)
    readExponentOrEnd total positive acc ex after

/-- The rest of a number after its integer digits, `sig` being their value if it fit. -/
def readAfterInteger (total : Nat) (positive : Bool) (sig : Nat) (e : Int) (isLong : Bool)
    (r : Rest) : Step JsonNumber :=
  match r with
  | 46 :: r' => readFraction total positive sig e r'
  | b :: _ =>
    if b == 101 || b == 69 then readExponentOrEnd total positive sig e r
    else if isLong then finishFloat total positive sig e r
    else .ok (integer positive sig, r)
  | [] => if isLong then finishFloat total positive sig e r else .ok (integer positive sig, r)
where
  /-- A whole number without fraction or exponent: negative ones that fit 64 bits stay
  integers, `-0` and the others become doubles. -/
  integer (positive : Bool) (sig : Nat) : JsonNumber :=
    if positive then .nat sig
    else if sig = 0 ∨ sig > Nat.pow 2 63 then .float (Binary64.ofNat sig).neg
    else .negInt (-(sig : Int))

/-- A number, its sign already read. -/
def readNumber (total : Nat) (positive : Bool) : Rest → Step JsonNumber
  | [] => errAt total [] .eofWhileParsingValue
  | b :: r =>
    if !isDigit b then errAt total r .invalidNumber
    else if b == 48 then
      match r with
      | c :: _ => if isDigit c then peekErr total r .invalidNumber
                  else readAfterInteger total positive 0 0 false r
      | [] => readAfterInteger total positive 0 0 false r
    else
      let (digits, after) := r.span isDigit
      -- digits that fit 64 bits form the significand, the others scale it by ten
      let step := fun (st : Nat × Int × Bool) (d : UInt8) =>
        let (acc, ex, long) := st
        if long || overflows acc (digitVal d) then (acc, ex + 1, true)
        else (acc * 10 + digitVal d, ex, false)
      let (sig, ex, long) := digits.foldl step (digitVal b, 0, false)
      readAfterInteger total positive sig ex long after

/-- Four hexadecimal digits of a `\u` escape. -/
def readHex4 (total : Nat) (r : Rest) : Step Nat :=
  match r with
  | a :: b :: c :: d :: r' =>
    let digits := [a, b, c, d].map fun x => Hex.value (Char.ofNat x.toNat)
    match digits with
    | [some w, some x, some y, some z] => .ok (((w * 16 + x) * 16 + y) * 16 + z, r')
    | _ => errAt total r' .invalidEscape
  | _ => errAt total [] .eofWhileParsingString

/-- The rest of a string after its opening quote, as UTF-8 bytes; `fuel` bounds the escapes. -/
def readStringBytes (total : Nat) : Nat → Rest → List UInt8 → Step (List UInt8)
  | 0, r, _ => errAt total r .eofWhileParsingString
  | fuel + 1, r, acc =>
    match r with
    | [] => errAt total [] .eofWhileParsingString
    | b :: r' =>
      if b == 34 then .ok (acc.reverse, r')
      else if b == 92 then
        match r' with
        | [] => errAt total [] .eofWhileParsingString
        | e :: r'' =>
          let simple := fun (c : UInt8) => readStringBytes total fuel r'' (c :: acc)
          if e == 34 then simple 34
          else if e == 92 then simple 92
          else if e == 47 then simple 47
          else if e == 98 then simple 8
          else if e == 102 then simple 12
          else if e == 110 then simple 10
          else if e == 114 then simple 13
          else if e == 116 then simple 9
          else if e == 117 then
            match readHex4 total r'' with
            | .error err => .error err
            | .ok (n, r3) =>
              if 0xDC00 ≤ n ∧ n ≤ 0xDFFF then errAt total r3 .loneLeadingSurrogateInHexEscape
              else if 0xD800 ≤ n ∧ n ≤ 0xDBFF then
                match r3 with
                | 92 :: 117 :: r4 =>
                  match readHex4 total r4 with
                  | .error err => .error err
                  | .ok (n2, r5) =>
                    if n2 < 0xDC00 ∨ n2 > 0xDFFF then
                      errAt total r5 .loneLeadingSurrogateInHexEscape
                    else
                      let cp := ((n - 0xD800) * 1024 + (n2 - 0xDC00)) + 0x10000
                      readStringBytes total fuel r5
                        ((Utf8.encode (Char.ofNat cp).toString).reverse ++ acc)
                | _ :: r4 => errAt total r4 .unexpectedEndOfHexEscape
                | [] => errAt total [] .eofWhileParsingString
              else
                readStringBytes total fuel r3
                  ((Utf8.encode (Char.ofNat n).toString).reverse ++ acc)
          else errAt total r'' .invalidEscape
      else if b.toNat < 32 then errAt total r' .controlCharacterWhileParsingString
      else readStringBytes total fuel r' (b :: acc)

/-- A string after its opening quote. -/
def readString (total : Nat) (r : Rest) : Step String :=
  match readStringBytes total (r.length + 1) r [] with
  | .error e => .error e
  | .ok (bytes, r') =>
    match Utf8.toString? bytes with
    | some s => .ok (s, r')
    | none => errAt total r' .invalidUnicodeCodePoint

/-- Matches the rest of `null`, `true` or `false`. -/
def readIdent (total : Nat) : List UInt8 → Rest → Except JsonError Rest
  | [], r => .ok r
  | c :: cs, r =>
    match r with
    | [] => errAt total [] .eofWhileParsingValue
    | b :: r' => if b == c then readIdent total cs r' else errAt total r' .expectedSomeIdent

mutual

/-- One value after blanks. `fuel` bounds the work and `depth` the nesting still allowed. -/
def readValue (total : Nat) (fuel depth : Nat) (r : Rest) : Step Json :=
  match fuel with
  | 0 => errAt total r .recursionLimitExceeded
  | fuel + 1 =>
    let r := skipBlanks r
    match r with
    | [] => peekErr total r .eofWhileParsingValue
    | b :: r' =>
      if b == 110 then (readIdent total [117, 108, 108] r').map fun r2 => (.null, r2)
      else if b == 116 then (readIdent total [114, 117, 101] r').map fun r2 => (.bool true, r2)
      else if b == 102 then
        (readIdent total [97, 108, 115, 101] r').map fun r2 => (.bool false, r2)
      else if b == 45 then (readNumber total false r').map fun (n, r2) => (.num n, r2)
      else if isDigit b then (readNumber total true r).map fun (n, r2) => (.num n, r2)
      else if b == 34 then (readString total r').map fun (s, r2) => (.str s, r2)
      else if b == 91 then
        if depth ≤ 1 then peekErr total r .recursionLimitExceeded
        else readItems total fuel (depth - 1) true r' []
      else if b == 123 then
        if depth ≤ 1 then peekErr total r .recursionLimitExceeded
        else readMembers total fuel (depth - 1) true r' []
      else peekErr total r .expectedSomeValue

/-- Array items after `[`, or after the previous item. -/
def readItems (total : Nat) (fuel depth : Nat) (first : Bool) (r : Rest) (acc : List Json) :
    Step Json :=
  match fuel with
  | 0 => errAt total r .recursionLimitExceeded
  | fuel + 1 =>
    let r := skipBlanks r
    match r with
    | [] => peekErr total r .eofWhileParsingList
    | b :: r' =>
      if b == 93 then .ok (.arr acc.reverse, r')
      else
        let next : Except JsonError Rest :=
          if b == 44 && !first then .ok (skipBlanks r')
          else if first then .ok r
          else peekErr total r .expectedListCommaOrEnd
        match next with
        | .error e => .error e
        | .ok r2 =>
          match r2 with
          | 93 :: _ => peekErr total r2 .trailingComma
          | [] => peekErr total r2 .eofWhileParsingValue
          | _ =>
            match readValue total fuel depth r2 with
            | .error e => .error e
            | .ok (v, r3) => readItems total fuel depth false r3 (v :: acc)

/-- Object members after `{`, or after the previous member. -/
def readMembers (total : Nat) (fuel depth : Nat) (first : Bool) (r : Rest)
    (acc : List (String × Json)) : Step Json :=
  match fuel with
  | 0 => errAt total r .recursionLimitExceeded
  | fuel + 1 =>
    let r := skipBlanks r
    match r with
    | [] => peekErr total r .eofWhileParsingObject
    | b :: r' =>
      if b == 125 then .ok (Json.object acc.reverse, r')
      else
        let next : Except JsonError Rest :=
          if b == 44 && !first then .ok (skipBlanks r')
          else if first then .ok r
          else peekErr total r .expectedObjectCommaOrEnd
        match next with
        | .error e => .error e
        | .ok r2 =>
          match r2 with
          | 34 :: r3 =>
            match readString total r3 with
            | .error e => .error e
            | .ok (k, r4) =>
              match skipBlanks r4 with
              | 58 :: r5 =>
                match readValue total fuel depth r5 with
                | .error e => .error e
                | .ok (v, r6) => readMembers total fuel depth false r6 ((k, v) :: acc)
              | [] => peekErr total [] .eofWhileParsingObject
              | r5 => peekErr total r5 .expectedColon
          | 125 :: _ => peekErr total r2 .trailingComma
          | [] => peekErr total r2 .eofWhileParsingValue
          | _ => peekErr total r2 .keyMustBeAString

end

end JsonRead

namespace Json

/-- The nesting limit: containers may be opened 127 deep. -/
def maxDepth : Nat := 128

/-- Reads one JSON document from bytes, refusing anything but blanks after it. -/
def readBytes (bytes : List UInt8) : Except JsonError Json :=
  let total := bytes.length
  match JsonRead.readValue total (2 * total + 2) maxDepth bytes with
  | .error e => .error e
  | .ok (v, r) =>
    match JsonRead.skipBlanks r with
    | [] => .ok v
    | r' => JsonRead.peekErr total r' .trailingCharacters

/-- Reads one JSON document from a text. -/
def read (s : String) : Except JsonError Json := readBytes (Utf8.encode s)

end Json

end BrokerSession
