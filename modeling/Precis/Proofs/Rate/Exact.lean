import Mathlib.Algebra.Order.Field.Basic
import Mathlib.Algebra.Order.Field.Rat
import Precis.Rate.Bucket

/-!
# Exact quantities

Rational numbers as the arithmetic of a bucket: nothing is rounded but the spans that callers sleep,
which are whole nanoseconds.
-/

namespace Precis

instance : Quantity Rat where
  zero := 0
  one := 1
  leq a b := decide (a ≤ b)
  less a b := decide (a < b)
  ofSpan n := n / 1000000000
  toSpan x := Decimal.roundDiv (x.num.toNat * 1000000000) x.den
  toMillis x := (x * 1000).floor.toNat

namespace Quantity

theorem leq_iff {a b : Rat} : leq a b = true ↔ a ≤ b := decide_eq_true_iff

theorem less_iff {a b : Rat} : less a b = true ↔ a < b := decide_eq_true_iff

theorem zero_eq : (zero : Rat) = 0 := rfl

theorem ofSpan_eq (n : Nat) : (ofSpan n : Rat) = n / 1000000000 := rfl

theorem ofSpan_nonneg (n : Nat) : (0 : Rat) ≤ ofSpan n := by
  rw [ofSpan_eq]
  exact div_nonneg (Nat.cast_nonneg n) (by decide)

theorem ofSpan_pos {n : Nat} : (0 : Rat) < ofSpan n ↔ 0 < n := by
  rw [ofSpan_eq, div_pos_iff_of_pos_right (by decide), Nat.cast_pos]

theorem ofSpan_mono {m n : Nat} (h : m ≤ n) : (ofSpan m : Rat) ≤ ofSpan n := by
  rw [ofSpan_eq, ofSpan_eq]
  exact div_le_div_of_nonneg_right (Nat.cast_le.2 h) (by decide)

/-- What a rate brings in a span. -/
theorem rate_mul_ofSpan_nonneg {rate : Rat} (hrate : 0 < rate) (n : Nat) : 0 ≤ rate * ofSpan n :=
  mul_nonneg (le_of_lt hrate) (ofSpan_nonneg n)

/-- The time that passes adds up. -/
theorem ofSpan_sub_add {a b c : Nat} (hab : a ≤ b) (hbc : b ≤ c) :
    (ofSpan (c - b) : Rat) + ofSpan (b - a) = ofSpan (c - a) := by
  rw [ofSpan_eq, ofSpan_eq, ofSpan_eq, ← add_div, ← Nat.cast_add]
  congr 2
  omega

theorem least_eq (a b : Rat) : Bucket.least a b = min a b := by
  rw [Bucket.least, min_def]
  exact if_congr leq_iff rfl rfl

end Quantity

namespace Bucket

open Quantity

/-- Refilling adds what the rate brought since the mark, up to the burst. -/
theorem refilled_of_lt {b : Bucket Rat} {now : Nat} (h : b.mark < now) :
    b.refilled now = { b with
      permits := min (b.permits + ofSpan (now - b.mark) * b.config.rate) b.config.burst
      mark := now } := by
  rw [refilled, ← least_eq]
  exact if_pos (less_iff.2 (ofSpan_pos.2 (Nat.sub_pos_of_lt h)))

/-- When no time has passed there is nothing to add. -/
theorem refilled_of_le {b : Bucket Rat} {now : Nat} (h : now ≤ b.mark) : b.refilled now = b := by
  rw [refilled]
  refine if_neg ?_
  intro hless
  have hpassed := ofSpan_pos.1 (less_iff.1 hless)
  omega

end Bucket

end Precis
