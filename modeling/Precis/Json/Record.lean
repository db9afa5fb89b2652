import Precis.Decimal.Approximate
import Precis.Decimal.Numeral
import Precis.Document
import Precis.Json.Reader

/-!
# Records in Json

A record is written as an object, or as the array of its fields in order. In an object the fields
stand in any order, members of other names are skipped, and no field stands twice; an array may
leave out fields at its end.
-/

namespace Precis.Json

/-- The members of an object with their names spelled out. -/
def namedMembers : List (List Char × Json) → Option (List (String × Json))
  | [] => some []
  | (k, v) :: rest => do
    let name ← textOf k
    let rest ← namedMembers rest
    return (name, v) :: rest

/-- One slot for each name, from the elements of an array that is not longer. -/
def slotsOfItems : List String → List δ → Option (Slots δ)
  | [], [] => some []
  | [], _ :: _ => none
  | name :: names, [] => (slotsOfItems names []).map ((name, .cutShort) :: ·)
  | name :: names, v :: rest => (slotsOfItems names rest).map ((name, .given v) :: ·)

/-- The slots of a record with fields of these names. -/
def slots (names : List String) : Json → Option (Slots Json)
  | object fields => do slotsOfMembers (← namedMembers fields) names
  | array items => slotsOfItems names items
  | _ => none

/-- Is null. -/
def isNull : Json → Bool
  | null => true
  | _ => false

/-- A text. -/
def text? : Json → Option String
  | string s => textOf s
  | _ => none

/-- A truth value. -/
def bool? : Json → Option Bool
  | bool b => some b
  | _ => none

/-- An integer: digits with a minus or without, but no negative zero. -/
def int? : Json → Option Int
  | number ('-' :: ds) =>
    if ds.all Char.isDigit && Text.ofDigits ds ≠ 0 then some (-(Text.ofDigits ds : Int)) else none
  | number ds => if ds.all Char.isDigit then some (Text.ofDigits ds) else none
  | _ => none

/-- A signed 64-bit word. -/
def int64? (v : Json) : Option Int64 :=
  match int? v with
  | some n =>
    if -9223372036854775808 ≤ n && n ≤ 9223372036854775807 then some (Int64.ofInt n) else none
  | none => none

/-- A natural number below `bound`. -/
def natBelow? (bound : Nat) (v : Json) : Option Nat :=
  match int? v with
  | some n => if 0 ≤ n && n < bound then some n.toNat else none
  | none => none

/-- A double: a number, or a text that names infinity or no number, which have no numerals. -/
def float? : Json → Option Float
  | number s => (Decimal.ofNumeral? s).map Decimal.approximate
  | string s => Decimal.floatOfNumeral? s
  | _ => none

/-- A list of values. -/
def list? (read : Json → Option α) : Json → Option (List α)
  | array items => items.mapM read
  | _ => none

/-- The name of a variant: a text, or an object with this only member and null in it. -/
def variant? : Json → Option String
  | string s => textOf s
  | object [(k, null)] => textOf k
  | _ => none

/-- The members of an object. -/
def entries? : Json → Option (List (String × Json))
  | object fields => namedMembers fields
  | _ => none

instance : Document Json where
  slots := slots
  isNull? v := some v.isNull
  text? := text?
  bool? := bool?
  natBelow? := natBelow?
  float? := float?
  variant? := variant?
  entries? := entries?

/-- An object of the given members. -/
def record (fields : List (String × Json)) : Json :=
  object (fields.map fun f => (escape f.1.toList, f.2))

/-- A member that is left out when there is no value. -/
def field? (name : String) : Option Json → List (String × Json)
  | none => []
  | some v => [(name, v)]

/-- A value or null. -/
def nullOr (write : α → Json) : Option α → Json
  | none => null
  | some a => write a

end Precis.Json
