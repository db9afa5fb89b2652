import Mathlib.Algebra.Order.Ring.Nat
import Mathlib.Algebra.Ring.Int.Defs
import Precis.Dispatch.Backoff

/-!
# The delays between attempts

Without a wish of the destination the delay is the base of the failure times `2 ^ index`, up to the
cap, in unbounded numbers (`Backoff.delay_none_eq`). The delays are computed in words, and two of
the steps stop at the largest word: the power does from index 64 on, and the product does whenever
it does not fit. Neither shows, because the cap is a word as well: what was stopped was at the cap
or beyond it, and a base of zero stays at zero (`min_mul_min_two_pow`).
-/

namespace Precis

open Time

namespace Backoff

theorem toNat_factor (index : UInt32) :
    (factor index).toNat = min (2 ^ index.toNat) (Word.size64 - 1) := by
  rw [factor, Word.toNat_clamp64]
  show min (2 ^ min index.toNat 64) _ = _
  rcases Nat.le_total index.toNat 64 with hsmall | hlarge
  · rw [Nat.min_eq_left hsmall]
  · have hpow : 2 ^ 64 ≤ 2 ^ index.toNat := Nat.pow_le_pow_right (by decide) hlarge
    rw [Nat.min_eq_right hlarge]
    simp only [Word.size64]
    omega

/-- A product with a power that stops at `top` is, up to a cap below `top`, the product with the
power. -/
theorem min_mul_min_two_pow (base index : Nat) {cap top : Nat} (hcap : cap ≤ top) :
    min (min (base * min (2 ^ index) top) top) cap = min (base * 2 ^ index) cap := by
  rcases Nat.le_total (2 ^ index) top with hfits | hstops
  · rw [Nat.min_eq_left hfits]
    omega
  rw [Nat.min_eq_right hstops]
  rcases Nat.eq_zero_or_pos base with rfl | hbase
  · rw [Nat.zero_mul, Nat.zero_mul]
    omega
  · -- both products are at the cap or beyond it
    have hstopped : top ≤ base * top := Nat.le_mul_of_pos_left _ hbase
    have hfull : top ≤ base * 2 ^ index := Nat.le_trans hstops (Nat.le_mul_of_pos_left _ hbase)
    omega

/-- The delay that the failure itself asks for, in unbounded numbers. -/
theorem delay_none_eq (b : Backoff) (kind : FailureKind) (index : UInt32) :
    b.delay kind index none
      = Span.ofMillis (min ((b.baseFor kind).toNat * 2 ^ index.toNat) b.cap.toNat) := by
  have hcap : b.cap.toNat ≤ Word.size64 - 1 := Nat.le_sub_one_of_lt b.cap.toNat_lt
  rw [← min_mul_min_two_pow _ _ hcap, ← toNat_factor, ← Word.toNat_mulSat]
  exact Nat.mul_min_mul_right _ _ _

/-- A later retry does not wait for less. -/
theorem delay_none_mono (b : Backoff) (kind : FailureKind) {index later : UInt32}
    (h : index ≤ later) : b.delay kind index none ≤ b.delay kind later none := by
  have hpow : 2 ^ index.toNat ≤ 2 ^ later.toNat :=
    Nat.pow_le_pow_right (by decide) (UInt32.le_iff_toNat_le.1 h)
  have hproduct := Nat.mul_le_mul_left (b.baseFor kind).toNat hpow
  rw [delay_none_eq, delay_none_eq]
  refine Nat.mul_le_mul_right _ ?_
  omega

/-- Three classes of failures have a first delay of their own. -/
theorem baseFor_eq (b : Backoff) (kind : FailureKind) :
    b.baseFor kind =
      if kind = .rateLimit then b.rateLimitBase
      else if kind = .timeout ∨ kind = .apiError then b.base
      else b.otherBase := by
  cases kind <;> rfl

/-- The delay before a retry is the base of the failure's class, doubled with every retry before it,
up to the cap; nothing wraps, so it never gets less from one retry to a later one. A delay that the
destination asks for is kept instead, up to the same cap. -/
theorem delay_capped (b : Backoff) (kind : FailureKind) (index : UInt32) :
    b.baseFor kind =
        (if kind = .rateLimit then b.rateLimitBase
          else if kind = .timeout ∨ kind = .apiError then b.base
          else b.otherBase) ∧
      b.delay kind index none
        = Span.ofMillis (min ((b.baseFor kind).toNat * 2 ^ index.toNat) b.cap.toNat) ∧
      (∀ later, index ≤ later → b.delay kind index none ≤ b.delay kind later none) ∧
      ∀ asked, b.delay kind index (some asked) = min asked (Span.ofMillis b.cap.toNat) := by
  refine ⟨b.baseFor_eq kind, b.delay_none_eq kind index, ?_, ?_⟩
  · intro later hlater
    exact b.delay_none_mono kind hlater
  · intro asked
    rfl

/-- A base of one millisecond that is doubled beyond the largest word. -/
def patient : Backoff := { base := 1, cap := 18446744073709551615 }

/-- The last power that fits a word is kept, and the next one is cut to the cap. -/
theorem delay_capped_longest : (63 : UInt32) ≤ 64 ∧
    patient.delay .timeout 63 none ≤ patient.delay .timeout 64 none ∧
      patient.delay .timeout 63 none = Span.ofMillis (2 ^ 63) ∧
      patient.delay .timeout 64 none = Span.ofMillis (2 ^ 64 - 1) := by
  have hindex : (63 : UInt32) ≤ 64 := by decide
  exact ⟨hindex,
    (delay_capped patient .timeout 63).2.2.1 64 hindex, by decide +kernel, by decide +kernel⟩

end Backoff

end Precis
