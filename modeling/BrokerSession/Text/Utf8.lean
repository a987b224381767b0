/-!
# UTF-8 and hexadecimal text of bytes

Payloads and keys are byte strings. `decodeUtf8` reads bytes as UTF-8 by the standard's
rules: a sequence is rejected if it is truncated, overlong, encodes a surrogate
(`U+D800`–`U+DFFF`) or goes past `U+10FFFF`. `hex` writes bytes as lower-case hexadecimal
and `unhex` reads such text back (either case), refusing an odd length or a non-digit.
-/

namespace BrokerSession

namespace Utf8

/-- A continuation byte `10xxxxxx`. -/
def isCont (b : UInt8) : Bool := b.toNat / 64 = 2

/-- The low six bits of a continuation byte. -/
def low6 (b : UInt8) : Nat := b.toNat % 64

/-- Decodes UTF-8 bytes, or `none` if they are not well-formed. -/
def decode : List UInt8 → Option (List Char)
  | [] => some []
  | b :: rest =>
    let n := b.toNat
    if n < 0x80 then (decode rest).map (Char.ofNat n :: ·)
    else match rest with
      | c1 :: rest1 =>
        if n / 32 = 6 then
          -- two bytes: U+0080 .. U+07FF
          let v := (n % 32) * 64 + low6 c1
          if isCont c1 ∧ v ≥ 0x80 then (decode rest1).map (Char.ofNat v :: ·) else none
        else match rest1 with
          | c2 :: rest2 =>
            if n / 16 = 14 then
              -- three bytes: U+0800 .. U+FFFF without the surrogates
              let v := (n % 16) * 4096 + low6 c1 * 64 + low6 c2
              if isCont c1 ∧ isCont c2 ∧ v ≥ 0x800 ∧ ¬(0xD800 ≤ v ∧ v ≤ 0xDFFF) then
                (decode rest2).map (Char.ofNat v :: ·)
              else none
            else match rest2 with
              | c3 :: rest3 =>
                if n / 8 = 30 then
                  -- four bytes: U+10000 .. U+10FFFF
                  let v := (n % 8) * 262144 + low6 c1 * 4096 + low6 c2 * 64 + low6 c3
                  if isCont c1 ∧ isCont c2 ∧ isCont c3 ∧ v ≥ 0x10000 ∧ v ≤ 0x10FFFF then
                    (decode rest3).map (Char.ofNat v :: ·)
                  else none
                else none
              | [] => none
          | [] => none
      | [] => none

/-- The text of well-formed UTF-8 bytes. -/
def toString? (bytes : List UInt8) : Option String := (decode bytes).map String.ofList

/-- The UTF-8 bytes of a text. -/
def encode (s : String) : List UInt8 := s.toUTF8.toList

end Utf8

namespace Hex

def digit (n : Nat) : Char := "0123456789abcdef".toList.getD n '0'

/-- Lower-case hexadecimal, two digits per byte. -/
def encode (bytes : List UInt8) : String :=
  String.ofList (bytes.flatMap fun b => [digit (b.toNat / 16), digit (b.toNat % 16)])

/-- The value of a hexadecimal digit of either case. -/
def value (c : Char) : Option Nat :=
  if '0' ≤ c ∧ c ≤ '9' then some (c.toNat - '0'.toNat)
  else if 'a' ≤ c ∧ c ≤ 'f' then some (c.toNat - 'a'.toNat + 10)
  else if 'A' ≤ c ∧ c ≤ 'F' then some (c.toNat - 'A'.toNat + 10)
  else none

/-- Why hexadecimal text could not be read. -/
inductive Error where
  | oddLength
  | badDigit (c : Char)
  deriving DecidableEq, Repr

/-- Reads pairs of hexadecimal digits as bytes. -/
def decodeChars : List Char → Except Error (List UInt8)
  | [] => .ok []
  | [_] => .error .oddLength
  | a :: b :: rest => do
    let hi ← (value a).elim (.error (.badDigit a)) .ok
    let lo ← (value b).elim (.error (.badDigit b)) .ok
    let tail ← decodeChars rest
    return (hi * 16 + lo).toUInt8 :: tail

/-- Reads hexadecimal text as bytes; an odd length is refused before any digit is read. -/
def decode (s : String) : Except Error (List UInt8) :=
  if s.length % 2 = 1 then .error .oddLength else decodeChars s.toList

end Hex

end BrokerSession
