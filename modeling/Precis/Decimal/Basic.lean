import Precis.Text.Numeral

/-!
# Decimal numerals and binary floats

A decimal is a sign, a natural number and a power of ten. `toFloat` rounds it to the nearest double,
ties to the even one; `shortest` finds, for a finite double, the decimal with the fewest digits that
rounds back to it, and among those the nearest.
-/

namespace Precis

/-- The number `digits · 10 ^ exponent`, or its negative. -/
structure Decimal where
  negative : Bool
  digits : Nat
  exponent : Int
  deriving DecidableEq, Repr, Inhabited

namespace Decimal

/-- `num / den` rounded to a natural number, ties to the even one. -/
def roundDiv (num den : Nat) : Nat :=
  let q := num / den
  let r := num % den
  if 2 * r < den then q
  else if den < 2 * r then q + 1
  else if q % 2 = 0 then q else q + 1

/-- The bits of the sign. -/
def signBit (negative : Bool) : Nat := if negative then Nat.pow 2 63 else 0

/-- The bits of infinity. -/
def infinityBits : Nat := 0x7FF * Nat.pow 2 52

/-- The bits of the double nearest to `num / den`, both positive. -/
def nearestBits (num den : Nat) : Nat :=
  let guess : Int := (num.log2 : Int) - den.log2 - 52
  let scaled := fun (e : Int) => (num * Nat.pow 2 (-e).toNat, den * Nat.pow 2 e.toNat)
  let low := scaled guess
  let exact := if low.1 / low.2 < Nat.pow 2 52 then guess - 1 else guess
  let e := max exact (-1074)
  let (n, d) := scaled e
  min ((e + 1074).toNat * Nat.pow 2 52 + roundDiv n d) infinityBits

/-- The number of decimal digits. -/
def width (n : Nat) : Nat := (Text.decimalDigits n).length

/-- The bits of the nearest double. -/
def magnitudeBits (digits : Nat) (exponent : Int) : Nat :=
  if digits = 0 then 0
  else
    let top := exponent + width digits
    if 310 < top then infinityBits
    else if top < -330 then 0
    else nearestBits (digits * Nat.pow 10 exponent.toNat) (Nat.pow 10 (-exponent).toNat)

/-- The nearest double. -/
def toFloat (d : Decimal) : Float :=
  Float.ofBits (UInt64.ofNat (signBit d.negative + magnitudeBits d.digits d.exponent))

/-! ## The fewest digits -/

/-- A finite positive double as `mantissa · 2 ^ exponent`. -/
structure Binary where
  mantissa : Nat
  exponent : Int
  deriving DecidableEq, Repr

/-- The double with these bits, less the sign. -/
def binaryOfBits (bits : Nat) : Binary :=
  let field : Nat := bits / Nat.pow 2 52 % Nat.pow 2 11
  let fraction : Nat := bits % Nat.pow 2 52
  if field = 0 then ⟨fraction, -1074⟩ else ⟨Nat.pow 2 52 + fraction, (field : Int) - 1075⟩

/-- The number rounded up to a natural number. -/
def Binary.ceil (b : Binary) : Nat :=
  let unit := Nat.pow 2 (-b.exponent).toNat
  (b.mantissa * Nat.pow 2 b.exponent.toNat + (unit - 1)) / unit

/-- Four times the mantissa of the lower and upper end of the numbers that round to `b`. -/
def Binary.ends (b : Binary) : Nat × Nat :=
  let lower := if b.mantissa = Nat.pow 2 52 && -1074 < b.exponent then 1 else 2
  (4 * b.mantissa - lower, 4 * b.mantissa + 2)

/-- Both sides of `d · 10 ^ k` against `x / 4 · 2 ^ e`, over one denominator. -/
def sides (d : Nat) (k : Int) (x : Nat) (e : Int) : Nat × Nat :=
  (4 * d * Nat.pow 10 k.toNat * Nat.pow 2 (-e).toNat, x * Nat.pow 2 e.toNat * Nat.pow 10 (-k).toNat)

/-- `d · 10 ^ k` rounds to `b`. -/
def roundsTo (b : Binary) (d : Nat) (k : Int) : Bool :=
  let (lo, hi) := b.ends
  let (v, l) := sides d k lo b.exponent
  let (_, h) := sides d k hi b.exponent
  if b.mantissa % 2 = 0 then l ≤ v && v ≤ h else l < v && v < h

/-- The multiple of `10 ^ k` below `b`. -/
def floorAt (b : Binary) (k : Int) : Nat :=
  (b.mantissa * Nat.pow 2 b.exponent.toNat * Nat.pow 10 (-k).toNat) /
    (Nat.pow 10 k.toNat * Nat.pow 2 (-b.exponent).toNat)

/-- The distance between `d · 10 ^ k` and `b`, over a denominator that depends on `k` alone. -/
def distance (b : Binary) (d : Nat) (k : Int) : Nat :=
  let (v, m) := sides d k (4 * b.mantissa) b.exponent
  if v < m then m - v else v - m

/-- The better of the two multiples of `10 ^ k` around `b`, if one rounds to it: the nearer one, and
of two equally near ones the even one. -/
def onGrid (b : Binary) (k : Int) : Option Nat :=
  let lo := floorAt b k
  let hi := lo + 1
  match 0 < lo && roundsTo b lo k, roundsTo b hi k with
  | false, false => none
  | true, false => some lo
  | false, true => some hi
  | true, true =>
    let below := distance b lo k
    let above := distance b hi k
    if below < above then some lo
    else if above < below then some hi
    else if lo % 2 = 0 then some lo else some hi

/-- The first grid that holds a number rounding to `b`, from `10 ^ k` down. -/
def searchGrids (b : Binary) : Nat → Int → Nat × Int
  | 0, k => (floorAt b k, k)
  | fuel + 1, k =>
    match onGrid b k with
    | some d => (d, k)
    | none => searchGrids b fuel (k - 1)

/-- The power of ten of the leading digit of `b`, or one more. -/
def leadingPower (b : Binary) : Int :=
  let scale := ((b.mantissa.log2 : Int) + b.exponent) * 30103 / 100000
  scale + 1

/-- Takes the zeros at the end of a number into the exponent. -/
def dropZeros : Nat → Nat → Int → Nat × Int
  | 0, d, k => (d, k)
  | fuel + 1, d, k => if d % 10 = 0 && d ≠ 0 then dropZeros fuel (d / 10) (k + 1) else (d, k)

/-- The decimal with the fewest digits that rounds to a finite double. -/
def shortest (x : Float) : Decimal :=
  let bits := x.toBits.toNat
  let negative := Nat.pow 2 63 ≤ bits
  let b := binaryOfBits (bits % Nat.pow 2 63)
  if b.mantissa = 0 then ⟨negative, 0, 0⟩
  else
    let (d, k) := searchGrids b 20 (leadingPower b)
    let (d, k) := dropZeros 20 d k
    ⟨negative, d, k⟩

end Decimal

end Precis
