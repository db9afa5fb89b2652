import Precis.Decimal.Numeral

/-!
# The meaning of plain scalars

A plain scalar may spell null, a truth value, an integer or a double. Integers may be hexadecimal,
octal or binary; digits after a zero are a text.
-/

namespace Precis.Yaml

open Text

/-- Spells null. -/
def isNullWord (s : String) : Bool := ["null", "Null", "NULL", "~"].contains s

/-- The truth value that a text spells. -/
def boolOf? (s : String) : Option Bool :=
  if ["true", "True", "TRUE"].contains s then some true
  else if ["false", "False", "FALSE"].contains s then some false
  else none

/-- A text without its sign. -/
def unsigned : List Char → List Char
  | '+' :: s => s
  | '-' :: s => s
  | s => s

/-- Digits after a zero, perhaps with a sign: a text, and no number. -/
def isPaddedNumber (s : List Char) : Bool :=
  match unsigned s with
  | '0' :: rest => !rest.isEmpty && rest.all Char.isDigit
  | _ => false

/-- The number of digits in a base. -/
def digitsIn (base : Nat) (s : List Char) : Option Nat :=
  if s.isEmpty then none
  else s.foldlM
    (fun n c => (hexDigit? c).bind fun d => if d < base then some (base * n + d) else none) 0

/-- The number after the mark of its base, if there is one. -/
def basedNat? : List Char → Option Nat
  | '0' :: 'x' :: s => digitsIn 16 s
  | '0' :: 'o' :: s => digitsIn 8 s
  | '0' :: 'b' :: s => digitsIn 2 s
  | _ => none

/-- The natural number that a text spells, with a plus or without. -/
def natOf? (s : List Char) : Option Nat :=
  let body := match s with
    | '+' :: rest => rest
    | _ => s
  (basedNat? body).or (if isPaddedNumber s then none else digitsIn 10 body)

/-- A name of infinity or of no number. -/
def specialFloat? (s : String) : Option Float :=
  if [".inf", ".Inf", ".INF", "+.inf", "+.Inf", "+.INF"].contains s then
    some (Decimal.infinity false)
  else if ["-.inf", "-.Inf", "-.INF"].contains s then some (Decimal.infinity true)
  else if [".nan", ".NaN", ".NAN"].contains s then some Decimal.notANumber
  else none

/-- The double that a text spells: the name of a special one, or a finite numeral. -/
def floatOf? (s : String) : Option Float :=
  match specialFloat? s with
  | some x => some x
  | none =>
    (Decimal.ofNumeral? s.toList).bind fun d =>
      let x := d.toFloat
      if x.isFinite then some x else none

end Precis.Yaml
