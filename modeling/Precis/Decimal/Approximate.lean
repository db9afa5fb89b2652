import Precis.Decimal.Basic

/-!
# Doubles of long numerals

A quick way from a decimal to a double: of its digits only as many as fit a word count, the word is
rounded first, and the power of ten is multiplied or divided after that. The result can be off by a
little where the exact one is not.
-/

namespace Precis.Decimal

/-- A power of ten as a double. -/
def powerOfTen (k : Nat) : Float := toFloat ⟨false, 1, k⟩

/-- Divides by a power of ten, 308 places at a time. -/
def scaleDown (x : Float) (k : Nat) : Float :=
  if k ≤ 308 || x == 0 then x / powerOfTen k else scaleDown (x / powerOfTen 308) (k - 308)
termination_by k
decreasing_by
  simp only [Bool.or_eq_true, decide_eq_true_eq, not_or] at *
  omega

/-- Drops digits from the end of a number until it is below a bound. -/
def dropDigits (bound digits : Nat) (exponent : Int) : Nat × Int :=
  if digits < bound || digits = 0 then (digits, exponent)
  else dropDigits bound (digits / 10) (exponent + 1)
termination_by digits
decreasing_by
  simp only [Bool.or_eq_true, decide_eq_true_eq, not_or] at *
  omega

/-- The double near a decimal. -/
def approximate (d : Decimal) : Float :=
  let (digits, exponent) := dropDigits (Nat.pow 2 64) d.digits d.exponent
  let x := (UInt64.ofNat digits).toFloat
  let y := if exponent < 0 then scaleDown x exponent.natAbs else x * powerOfTen exponent.toNat
  if d.negative then -y else y

end Precis.Decimal
