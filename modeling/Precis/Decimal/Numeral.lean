import Precis.Decimal.Basic

/-!
# Decimal numerals

A numeral has digits before or after a point, perhaps an exponent, and perhaps a sign in front.
`Float.ofNumeral?` reads the names of infinity and of no number too, in any case. Printed numbers
use a point where the magnitude allows it and an exponent otherwise.
-/

namespace Precis.Decimal

open Text

/-- A sign, and what follows it. -/
def signAt : List Char → Bool × List Char
  | '-' :: s => (true, s)
  | '+' :: s => (false, s)
  | s => (false, s)

/-- The digits after a point, if a point follows, and what follows them. -/
def fractionAt : List Char → List Char × List Char
  | '.' :: s => (s.takeWhile Char.isDigit, s.dropWhile Char.isDigit)
  | s => ([], s)

/-- The exponent, if its letter follows; `none` when no digits follow the letter. -/
def exponentAt : List Char → Option Int
  | [] => some 0
  | c :: s =>
    if c = 'e' || c = 'E' then
      let (negative, s) := signAt s
      if s.isEmpty || !s.all Char.isDigit then none
      else some (if negative then -(ofDigits s : Int) else ofDigits s)
    else none

/-- The decimal of a numeral without a sign. -/
def ofUnsigned? (negative : Bool) (s : List Char) : Option Decimal := do
  let whole := s.takeWhile Char.isDigit
  let (fraction, rest) := fractionAt (s.dropWhile Char.isDigit)
  if whole.isEmpty && fraction.isEmpty then none
  else
    let exponent ← exponentAt rest
    return ⟨negative, ofDigits (whole ++ fraction), exponent - fraction.length⟩

/-- The decimal of a numeral. -/
def ofNumeral? (s : List Char) : Option Decimal :=
  let (negative, s) := signAt s
  ofUnsigned? negative s

/-- Infinity. -/
def infinity (negative : Bool) : Float :=
  Float.ofBits (UInt64.ofNat (signBit negative + infinityBits))

/-- No number. -/
def notANumber : Float := Float.ofBits 0x7FF8000000000000

/-- The double of a numeral, or of a name of infinity or of no number. -/
def floatOfNumeral? (s : List Char) : Option Float :=
  let (negative, rest) := signAt s
  let word := rest.map Char.toLower
  if word = "inf".toList || word = "infinity".toList then some (infinity negative)
  else if word = "nan".toList then some notANumber
  else (ofUnsigned? negative rest).map toFloat

/-- The printed form of a decimal without its sign: at most 16 digits before the point and at most
five zeros after it are written out; beyond these there is an exponent. -/
def writeUnsigned (digits : Nat) (exponent : Int) : List Char :=
  let ds := decimalDigits digits
  let point := (ds.length : Int) + exponent
  if digits = 0 then "0.0".toList
  else if 0 ≤ exponent && point ≤ 16 then ds ++ List.replicate exponent.toNat '0' ++ ".0".toList
  else if 0 < point && point ≤ 16 then ds.take point.toNat ++ '.' :: ds.drop point.toNat
  else if -5 < point && point ≤ 0 then "0.".toList ++ List.replicate (-point).toNat '0' ++ ds
  else
    let mantissa := match ds with
      | [] => []
      | [d] => [d]
      | d :: rest => d :: '.' :: rest
    mantissa ++ 'e' :: signedDigits (point - 1)

/-- The printed form of a finite double. -/
def write (x : Float) : List Char :=
  let d := shortest x
  (if d.negative then ['-'] else []) ++ writeUnsigned d.digits d.exponent

end Precis.Decimal
