import BrokerSession.Binary64.Basic

/-!
# JSON values

A JSON document as the sessions read and write it. A number keeps how it was written: an
integer that fits 64 bits stays an integer (non-negative below `2^64`, negative from
`-2^63`), anything with a fraction or an exponent, or out of those ranges, is a double.
Object members are kept sorted by key, one member per key; reading a key twice keeps the
last value.
-/

namespace BrokerSession

/-- A JSON number. -/
inductive JsonNumber where
  /-- an integer in `[0, 2^64)` -/
  | nat (n : Nat)
  /-- an integer in `[-2^63, 0)` -/
  | negInt (n : Int)
  /-- a double -/
  | float (x : Binary64)
  deriving DecidableEq, Repr

/-- A JSON value. -/
inductive Json where
  | null
  | bool (b : Bool)
  | num (n : JsonNumber)
  | str (s : String)
  | arr (items : List Json)
  /-- members sorted by key, keys distinct -/
  | obj (members : List (String × Json))
  deriving Repr, Inhabited

namespace Json

/-- Sets a member, keeping the members sorted by key. -/
def insertMember (ms : List (String × Json)) (k : String) (v : Json) : List (String × Json) :=
  match ms with
  | [] => [(k, v)]
  | (k', v') :: rest =>
    if k < k' then (k, v) :: (k', v') :: rest
    else if k = k' then (k, v) :: rest
    else (k', v') :: insertMember rest k v

/-- An object from members in any order; a later member replaces an earlier one of its key. -/
def object (ms : List (String × Json)) : Json :=
  .obj (ms.foldl (fun acc (k, v) => insertMember acc k v) [])

/-- The member of an object. -/
def field? (j : Json) (k : String) : Option Json :=
  match j with
  | .obj ms => ms.lookup k
  | _ => none

def int (i : Int) : Json :=
  if 0 ≤ i then .num (.nat i.toNat) else .num (.negInt i)

def nat (n : Nat) : Json := .num (.nat n)

/-- `none` as `null`. -/
def opt {α : Type} (f : α → Json) : Option α → Json
  | some a => f a
  | none => .null

end Json

end BrokerSession
