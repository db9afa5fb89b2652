import Precis.Packing.Truncation
import Precis.Proofs.Decimal.Arithmetic

/-!
# Counts of tokens

The estimator divides in doubles and rounds up. The count is the exact quotient but for the error of
three roundings: that of the length, of the ratio and of the quotient (`countOf_le`, `le_countOf`).
The truncator errs as little the other way (`maxChars_le`).
-/

namespace Precis

open Decimal

theorem isPositive_iff (x : Float) : isPositive x = true ↔ Proper x := by
  rw [isPositive, Bool.and_eq_true, decide_eq_true_iff, zero_lt_iff]
  constructor
  · rintro ⟨hfinite, hpos, hle⟩
    refine ⟨hpos, Nat.lt_of_le_of_ne hle ?_⟩
    intro heq
    have hbits : x.toModel.toBits = UInt64.ofNat infinityBits := UInt64.toNat_inj.1 heq
    have hunpack : x.toModel.unpack = .infinity .positive := by
      unfold Float.Model.unpack
      rw [hbits]
      rfl
    change Float.Model.UnpackedFloat.isFinite x.toModel.unpack = true at hfinite
    rw [hunpack] at hfinite
    cases hfinite
  · intro h
    refine ⟨?_, h.1, Nat.le_of_lt h.2⟩
    change Float.Model.UnpackedFloat.isFinite x.toModel.unpack = true
    rw [h.unpack_eq]
    rfl

/-- The bits of a double that is no less than zero, infinity included, round up as its number
does. -/
theorem toNat_wordAbove {x : Float} (hx : x.toBits.toNat ≤ infinityBits) :
    (wordAbove x).toNat = min (binaryOfBits x.toBits.toNat).ceil (Word.size64 - 1) := by
  rw [wordAbove]
  split
  · exact Word.toNat_clamp64 _
  · -- what is not above zero is zero here, and counts nothing
    rename_i hnone
    have hzero : x.toBits.toNat = 0 := by
      rw [zero_lt_iff] at hnone
      omega
    have hceil : (binaryOfBits 0).ceil ≤ 0 := by
      rw [ceil_le_iff, value_zero]
      exact le_of_eq rfl
    rw [hzero, Nat.le_zero.1 hceil]
    rfl

theorem number_clamp64_le (n : Nat) : number (Word.clamp64 n).toFloat ≤ n * (1 + halfUnit) := by
  have hclamp : ((Word.clamp64 n).toNat : Rat) ≤ n := by
    have hle : (Word.clamp64 n).toNat ≤ n := by
      rw [Word.toNat_clamp64]
      exact Nat.min_le_left _ _
    exact_mod_cast hle
  have hpos := halfUnit_pos
  exact le_trans (number_toFloat _).2 (mul_le_mul_of_nonneg_right hclamp (by linarith))

namespace Estimator

variable {e : Estimator}

/-- The count is the nearest double to the quotient, rounded up. -/
theorem toNat_countOf (hratio : Proper e.charsPerToken) (n : Nat) :
    ∃ bits, Rounds (number (Word.clamp64 n).toFloat / number e.charsPerToken) bits ∧
      bits ≤ infinityBits ∧
      (e.countOf n).toNat = min (binaryOfBits bits).ceil (Word.size64 - 1) := by
  have hrounds := rounds_div (toBits_toFloat_lt (Word.clamp64 n)) hratio
  exact ⟨_, hrounds, hrounds.le_infinityBits, toNat_wordAbove hrounds.le_infinityBits⟩

/-- The count is at most what the quotient, with the errors of its roundings, does not exceed. -/
theorem countOf_le (hratio : Proper e.charsPerToken) {n k : Nat} (hk : 1 ≤ k)
    (h : n * (1 + halfUnit) ^ 2 ≤ k * number e.charsPerToken) : (e.countOf n).toNat ≤ k := by
  obtain ⟨bits, hrounds, hbits, hcount⟩ := toNat_countOf hratio n
  have hpos := hratio.number_pos
  have hunit := halfUnit_pos
  have hone : (1 : Rat) ≤ k := by exact_mod_cast hk
  have hvalue : (binaryOfBits bits).value ≤ k := by
    refine le_trans hrounds.value_le_max ?_
    rw [max_mul_of_nonneg _ _ (by linarith)]
    refine max_le ?_ (le_trans (le_of_lt leastNormal_lt_one) hone)
    rw [div_mul_eq_mul_div, div_le_iff₀ hpos]
    refine le_trans (mul_le_mul_of_nonneg_right (number_clamp64_le n) (by linarith)) ?_
    rw [mul_assoc, ← sq]
    exact h
  have hceil := (ceil_le_iff _ _).2 hvalue
  omega

/-- The count is at least the quotient less the errors of its roundings, unless it is the
largest. -/
theorem le_countOf (hratio : Proper e.charsPerToken)
    (hlarge : number e.charsPerToken ≤ 2 ^ (1000 : Int)) {n : Nat} (hn : n < Word.size64)
    (h : (e.countOf n).toNat < Word.size64 - 1) :
    n * (1 - halfUnit) ^ 2 ≤ (e.countOf n).toNat * number e.charsPerToken := by
  obtain ⟨bits, hrounds, hbits, hcount⟩ := toNat_countOf hratio n
  have hpos := hratio.number_pos
  have hunit := halfUnit_lt_one
  -- no characters take no tokens
  rcases Nat.eq_zero_or_pos n with hzero | hsome
  · rw [hzero, Nat.cast_zero, zero_mul]
    exact mul_nonneg (Nat.cast_nonneg _) (le_of_lt hpos)
  have hcount : (e.countOf n).toNat = (binaryOfBits bits).ceil := by omega
  have hvalue : (binaryOfBits bits).value ≤ (e.countOf n).toNat :=
    (ceil_le_iff _ _).1 (Nat.le_of_eq hcount.symm)
  have hfinite : bits < infinityBits := by
    -- infinity would be counted as the largest word
    refine Nat.lt_of_le_of_ne hbits ?_
    rintro rfl
    have hle : 2 ^ 64 ≤ (e.countOf n).toNat := by
      exact_mod_cast le_trans two_pow_le_value_infinityBits hvalue
    exact absurd (e.countOf n).toNat_lt (Nat.not_lt.2 hle)
  have hlength : n * (1 - halfUnit) ≤ number (Word.clamp64 n).toFloat := by
    have hclamp : (Word.clamp64 n).toNat = n := by
      rw [Word.toNat_clamp64]
      omega
    have hle := (number_toFloat (Word.clamp64 n)).1
    rwa [hclamp] at hle
  -- the quotient is not among the smallest doubles, whose errors are not relative
  have hnormal : (2 : Rat) ^ (-1022 : Int) ≤
      number (Word.clamp64 n).toFloat / number e.charsPerToken := by
    have hone : (1 : Rat) ≤ n := by exact_mod_cast hsome
    have hhalf : (1 : Rat) / 2 ≤ n * (1 - halfUnit) := by
      have hless : halfUnit ≤ 1 / 2 := by
        unfold halfUnit
        norm_num
      exact le_trans (by linarith)
        (mul_le_mul hone (le_refl (1 - halfUnit)) (by linarith) (by linarith))
    rw [le_div_iff₀ hpos]
    calc (2 : Rat) ^ (-1022 : Int) * number e.charsPerToken
        ≤ 2 ^ (-1022 : Int) * 2 ^ (1000 : Int) := mul_le_mul_of_nonneg_left hlarge (by positivity)
      _ = 2 ^ (-22 : Int) := by rw [← zpow_add₀ (by norm_num)]; rfl
      _ ≤ 1 / 2 := by norm_num
      _ ≤ number (Word.clamp64 n).toFloat := le_trans hhalf hlength
  have hquotient := hrounds.le_value hnormal hfinite
  rw [div_mul_eq_mul_div, div_le_iff₀ hpos] at hquotient
  calc n * (1 - halfUnit) ^ 2 = n * (1 - halfUnit) * (1 - halfUnit) := by ring
    _ ≤ number (Word.clamp64 n).toFloat * (1 - halfUnit) :=
        mul_le_mul_of_nonneg_right hlength (by linarith)
    _ ≤ (binaryOfBits bits).value * number e.charsPerToken := hquotient
    _ ≤ (e.countOf n).toNat * number e.charsPerToken :=
        mul_le_mul_of_nonneg_right hvalue (le_of_lt hpos)

/-! ## The ratio -/

theorem proper_standard : Proper standard.charsPerToken := by
  rw [← isPositive_iff]
  decide

theorem proper_ofTokensPerChar (x : Float) : Proper (ofTokensPerChar x).charsPerToken := by
  unfold ofTokensPerChar ofCharsPerToken
  split
  · split
    · rename_i hreciprocal
      exact (isPositive_iff _).1 hreciprocal
    · exact proper_standard
  · exact proper_standard

theorem number_standard : number standard.charsPerToken = 4 := by
  have hbits : binaryOfBits standard.charsPerToken.toBits.toNat = ⟨2 ^ 52, -50⟩ := by decide +kernel
  rw [number, hbits, Binary.value]
  norm_num

theorem number_billion : number 1000000000 = 1000000000 := by
  have hbits : binaryOfBits (1000000000 : Float).toBits.toNat = ⟨8388608000000000, -23⟩ := by
    decide +kernel
  rw [number, hbits, Binary.value]
  norm_num

/-- With at most a billion tokens a character, a token has no less than a billionth of a
character. -/
theorem le_number_ofTokensPerChar {x : Float} (h : x ≤ 1000000000) :
    1 - halfUnit ≤ 1000000000 * number (ofTokensPerChar x).charsPerToken := by
  have hstandard : 1 - halfUnit ≤ 1000000000 * number standard.charsPerToken := by
    have hunit := halfUnit_pos
    rw [number_standard]
    linarith
  unfold ofTokensPerChar ofCharsPerToken
  split
  · rename_i hx
    rw [isPositive_iff] at hx
    split
    · rename_i hreciprocal
      rw [isPositive_iff] at hreciprocal
      have hbillion : Proper 1000000000 := by
        rw [← isPositive_iff]
        decide +kernel
      have hle := number_le_of_le hx hbillion h
      rw [number_billion] at hle
      have hlarge : number x ≤ 2 ^ (1000 : Int) := by
        refine le_trans hle (le_trans ?_ (zpow_le_zpow_right₀ (m := 30) (by norm_num) (by decide)))
        norm_num
      refine le_trans (number_reciprocal hx hreciprocal.2 hlarge).1 ?_
      rw [mul_comm]
      exact mul_le_mul_of_nonneg_right hle (le_of_lt hreciprocal.number_pos)
    · exact hstandard
  · exact hstandard

end Estimator

namespace Truncator

variable {t : Truncator}

theorem proper_ofTokensPerChar (x : Float) : Proper (ofTokensPerChar x).tokensPerChar := by
  unfold ofTokensPerChar
  split
  · rename_i hx
    exact (isPositive_iff x).1 hx
  · rw [← isPositive_iff]
    decide +kernel

/-- The characters that a budget has room for take no more than the budget, but for the errors of
two roundings. -/
theorem maxChars_le (hratio : Proper t.tokensPerChar) (budget : UInt64) :
    (t.maxChars budget).toNat * number t.tokensPerChar ≤ budget.toNat * (1 + halfUnit) ^ 2 := by
  have hpos := hratio.number_pos
  have hunit := halfUnit_pos
  have hrounds := rounds_div (toBits_toFloat_lt budget) hratio
  have hword : ((t.maxChars budget).toNat : Rat) ≤ number (budget.toFloat / t.tokensPerChar) :=
    toUInt64_le hrounds.le_infinityBits
  have hvalue := le_trans hword hrounds.value_le_max
  rcases Nat.eq_zero_or_pos (t.maxChars budget).toNat with hnone | hsome
  · -- no room is never too much
    rw [hnone, Nat.cast_zero, zero_mul]
    positivity
  rcases le_total (2 ^ (-1022 : Int)) (number budget.toFloat / number t.tokensPerChar) with
    hnormal | hsmall
  · rw [max_eq_left hnormal, div_mul_eq_mul_div, le_div_iff₀ hpos] at hvalue
    calc (t.maxChars budget).toNat * number t.tokensPerChar
        ≤ number budget.toFloat * (1 + halfUnit) := hvalue
      _ ≤ budget.toNat * (1 + halfUnit) * (1 + halfUnit) :=
          mul_le_mul_of_nonneg_right (number_toFloat budget).2 (by linarith)
      _ = budget.toNat * (1 + halfUnit) ^ 2 := by ring
  · -- the room is less than a character
    rw [max_eq_right hsmall] at hvalue
    have hone : (1 : Rat) ≤ (t.maxChars budget).toNat := by exact_mod_cast hsome
    exact absurd (lt_of_le_of_lt (le_trans hone hvalue) leastNormal_lt_one) (lt_irrefl _)

end Truncator

end Precis
