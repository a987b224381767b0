import BrokerSession.Json.Value
import BrokerSession.Binary64.Shortest

/-!
# Writing JSON

`Json.write` writes compact JSON: no blanks, object members in key order.

Strings escape the quote, the backslash and every control character below `U+0020`:
backspace, form feed, line feed, carriage return and tab by their letters, the others as
`\u00XX` with lower-case digits. Every other character is written as itself.

A double is written with its shortest digits (`Binary64.shortest`), in one of two layouts,
the choice being `doubleLayout`: positionally when its decimal point falls between the 5th
place after and the 16th place before the first digit, always with at least one digit after
the point (`1000.0`, `0.001234`); otherwise in scientific notation with a signed exponent
(`1e+16`, `1.5e-7`). Zero is `0.0` with its sign; a double that is not finite is `null`.
-/

namespace BrokerSession

/-- Where positional notation ends, and how an exponent is signed: positional when
`minPoint < point ≤ maxPoint`, `point` being the position of the decimal point relative to the
first significant digit; a non-negative exponent carries `+` when `plusSign`. -/
structure DoubleLayout where
  minPoint : Int
  maxPoint : Int
  plusSign : Bool

/-- The layout of doubles in written JSON. -/
def doubleLayout : DoubleLayout := ⟨-5, 16, true⟩

namespace Json

/-- The text of a natural number. -/
def natText (n : Nat) : String := toString n

/-- The text of a double. -/
def doubleText (x : Binary64) : String :=
  if !x.isFinite then "null"
  else
    let sign := if x.signBit then "-" else ""
    if x.isZero then sign ++ "0.0"
    else
      let d := x.shortest
      let digits := natText d.digits
      let len : Int := digits.length
      let point := len + d.exp
      let body :=
        if 0 ≤ d.exp ∧ point ≤ doubleLayout.maxPoint then
          digits ++ String.ofList (List.replicate d.exp.toNat '0') ++ ".0"
        else if 0 < point ∧ point ≤ doubleLayout.maxPoint then
          String.ofList (digits.toList.take point.toNat) ++ "." ++
            String.ofList (digits.toList.drop point.toNat)
        else if doubleLayout.minPoint < point ∧ point ≤ 0 then
          "0." ++ String.ofList (List.replicate (-point).toNat '0') ++ digits
        else
          let mant := match digits.toList with
            | [c] => String.ofList [c]
            | c :: rest => String.ofList [c] ++ "." ++ String.ofList rest
            | [] => ""
          let e := point - 1
          mant ++ "e" ++ (if doubleLayout.plusSign && 0 ≤ e then "+" else "") ++ toString e
      sign ++ body

def numberText : JsonNumber → String
  | .nat n => natText n
  | .negInt i => toString i
  | .float x => doubleText x

def hexDigit (n : Nat) : Char := "0123456789abcdef".toList.getD n '0'

/-- One character of a written string. -/
def escapeChar (c : Char) : List Char :=
  if c = '"' then ['\\', '"']
  else if c = '\\' then ['\\', '\\']
  else if c = '\n' then ['\\', 'n']
  else if c = '\r' then ['\\', 'r']
  else if c = '\t' then ['\\', 't']
  else if c.toNat = 8 then ['\\', 'b']
  else if c.toNat = 12 then ['\\', 'f']
  else if c.toNat < 32 then
    ['\\', 'u', '0', '0', hexDigit (c.toNat / 16), hexDigit (c.toNat % 16)]
  else [c]

/-- A string in quotes, escaped. -/
def quote (s : String) : String :=
  String.ofList ('"' :: (s.toList.flatMap escapeChar ++ ['"']))

mutual

/-- Compact JSON text. -/
def write : Json → String
  | .null => "null"
  | .bool b => if b then "true" else "false"
  | .num n => numberText n
  | .str s => quote s
  | .arr items => "[" ++ writeItems items ++ "]"
  | .obj ms => "\x7b" ++ writeMembers ms ++ "\x7d"

/-- Array items separated by commas. -/
def writeItems : List Json → String
  | [] => ""
  | [j] => write j
  | j :: rest => write j ++ "," ++ writeItems rest

/-- Object members separated by commas. -/
def writeMembers : List (String × Json) → String
  | [] => ""
  | [(k, v)] => quote k ++ ":" ++ write v
  | (k, v) :: rest => quote k ++ ":" ++ write v ++ "," ++ writeMembers rest

end

end Json

end BrokerSession
