import Mathlib.Tactic.FieldSimp
import Precis.Proofs.Decimal.Doubles

/-!
# Arithmetic of doubles

A quotient of doubles is the double nearest to the quotient of their numbers (`rounds_div`), and the
double of a word is the one nearest to the word (`rounds_toFloat`). Both bring the mantissa to 53
bits, round it, and bring it to 53 bits again: `rounds_roundWithAccuracy`. Doubles compare as their
numbers do, and cutting one to a word, or rounding it up, is the same as for its number.
-/

namespace Precis.Decimal

open Float.Model Float.Model.UnpackedFloat

/-! ## Rounding -/

/-- The exponent at which a number is kept, of the position of its leading bit. -/
theorem targetExponent_eq (n : Int) : Format.binary64.targetExponent n = max (n - 53) (-1074) := rfl

section Leading

variable {x : Rat} {m : Nat} {e : Int}

theorem lt_of_leading_bit (h : x / 2 ^ e < m + 1) : x < 2 ^ (m.log2 + 1 + e) := by
  have hpos : (0 : Rat) < 2 ^ e := by positivity
  have hmost : (m : Rat) + 1 ≤ 2 ^ (m.log2 + 1 : Int) := by
    have hlt : m < 2 ^ (m.log2 + 1) := Nat.lt_log2_self
    exact_mod_cast hlt
  rw [div_lt_iff₀ hpos] at h
  rw [zpow_add₀ (by norm_num)]
  exact lt_of_lt_of_le h (mul_le_mul_of_nonneg_right hmost (le_of_lt hpos))

theorem le_of_leading_bit (hm : m ≠ 0) (h : m ≤ x / 2 ^ e) : 2 ^ (m.log2 + e) ≤ x := by
  have hpos : (0 : Rat) < 2 ^ e := by positivity
  have hleast : (2 : Rat) ^ (m.log2 : Int) ≤ m := by
    rw [zpow_natCast]
    exact_mod_cast Nat.log2_self_le hm
  rw [le_div_iff₀ hpos] at h
  rw [zpow_add₀ (by norm_num)]
  exact le_trans (mul_le_mul_of_nonneg_right hleast (le_of_lt hpos)) h

end Leading

theorem mantissa_ofMantissaAndAccuracy (m : Nat) (acc : Accuracy) :
    (ExtendedMantissa.ofMantissaAndAccuracy m acc).mantissa = m := by
  unfold ExtendedMantissa.ofMantissaAndAccuracy
  split <;> rfl

/-- A rounded mantissa of at most 53 bits stays as it is, and a longer one loses its last bit, a
zero. -/
theorem shift_rounded {m : Nat} {e : Int} (he : -1074 ≤ e) (hm : m ≤ 2 ^ 53) :
    shiftToTargetExponent Format.binary64 m e .exact =
      (⟨(Binary.settled m e).mantissa, false, false⟩, (Binary.settled m e).exponent) := by
  unfold shiftToTargetExponent Binary.settled
  dsimp only
  rw [targetExponent_eq, totalExponent]
  split
  · -- a mantissa of all 53 bits and one more has to be shifted once
    rename_i heq
    have hshift : (max ((m.log2 : Int) + 1 + e - 53) (-1074) - e).toNat = 1 := by
      rw [heq, Nat.log2_two_pow]
      omega
    rw [shiftToExponent, hshift, heq]
    rfl
  · -- a shorter one need not be shifted
    have hlog : m.log2 ≤ 52 := by
      rcases Nat.eq_zero_or_pos m with hzero | hpos
      · rw [hzero, Nat.log2_zero]
        exact Nat.zero_le _
      · have hlt := (Nat.log2_lt (by omega)).2 (Nat.lt_of_le_of_ne hm ‹_›)
        omega
    have hshift : (max ((m.log2 : Int) + 1 + e - 53) (-1074) - e).toNat = 0 := by omega
    rw [shiftToExponent, hshift, Int.natCast_zero, Int.add_zero]
    rfl

/-- A rounded mantissa and its exponent are packed into their bits. -/
theorem toNat_pack_settled {m : Nat} {e : Int} (he : -1074 ≤ e) (hm : m ≤ 2 ^ 53)
    (hfull : e = -1074 ∨ 2 ^ 52 ≤ m) :
    (UnpackedFloat.pack Format.binary64
      (if h : (Binary.settled m e).mantissa = 0 then .zero .positive
        else .finite .positive (Binary.settled m e).mantissa (Binary.settled m e).exponent
          (Nat.pos_of_ne_zero h))).toNat
      = min ((e + 1074).toNat * 2 ^ 52 + m) infinityBits := by
  have hcanonical := Binary.canonical_settled he hm hfull
  rw [← Binary.bits_settled he]
  by_cases hzero : (Binary.settled m e).mantissa = 0
  · -- zero has no leading bit, and is packed by itself
    rw [dif_pos hzero]
    have hbits : (Binary.settled m e).bits = 0 := by
      have hfull := hcanonical.full
      rw [Binary.bits]
      omega
    rw [hbits]
    rfl
  · rw [dif_neg hzero]
    exact hcanonical.toNat_pack _

/-- What has enough bits, and its rest marked, is rounded to the nearest double. -/
theorem rounds_roundWithAccuracy {x : Rat} {m : Nat} {e : Int} {acc : Accuracy}
    (hmarks : Marks (.ofMantissaAndAccuracy m acc) (x / 2 ^ e)) (hbits : e ≤ -1074 ∨ 2 ^ 52 ≤ m) :
    Rounds x (UnpackedFloat.pack Format.binary64
      (roundWithAccuracy Format.binary64 .positive m e acc)).toNat := by
  obtain ⟨t, ht⟩ : ∃ t, t = Format.binary64.targetExponent (totalExponent m e) := ⟨_, rfl⟩
  have htarget : t = max ((m.log2 : Int) + 1 + e - 53) (-1074) := ht
  have hlog : 2 ^ 52 ≤ m → 52 ≤ m.log2 := fun h => (Nat.le_log2 (by omega)).2 h
  have hmem := hmarks.mem_mantissa
  rw [mantissa_ofMantissaAndAccuracy] at hmem
  have hlt : x < 2 ^ (53 + t) :=
    lt_of_lt_of_le (lt_of_leading_bit hmem.2) (zpow_le_zpow_right₀ (by norm_num) (by omega))
  have hge : t = -1074 ∨ 2 ^ (52 + t) ≤ x := by
    -- a subnormal need not be full
    by_cases hleast : t = -1074
    · exact Or.inl hleast
    · have hm : m ≠ 0 := by
        intro hzero
        rw [hzero, Nat.log2_zero] at htarget
        omega
      have hexponent : 52 + t = m.log2 + e := by omega
      rw [hexponent]
      exact Or.inr (le_of_leading_bit hm hmem.1)
  -- the first shift leaves the bits that are kept, and marks the others
  obtain ⟨em, hem⟩ : ∃ em, em = ExtendedMantissa.ofMantissaAndAccuracy m acc >>> (t - e).toNat :=
    ⟨_, rfl⟩
  have hshifted : shiftToTargetExponent Format.binary64 m e acc = (em, t) := by
    have hexponent : e + ((t - e).toNat : Int) = t := by omega
    show shiftToExponent m e acc (Format.binary64.targetExponent (totalExponent m e)) = _
    rw [← ht, shiftToExponent, hem, hexponent]
  have hmarked : Marks em (x / 2 ^ t) := by
    have hscale : x / 2 ^ t = x / 2 ^ e / 2 ^ (t - e).toNat := by
      rw [div_div, ← zpow_natCast, ← zpow_add₀ (by norm_num)]
      congr 2
      omega
    rw [hscale, hem]
    exact hmarks.shiftRight _
  have hleast : -1074 ≤ t := by omega
  have hsmall := hmarked.rounded_le (le_of_lt hlt)
  refine ⟨em, t, hleast, hlt, hge, hmarked, ?_⟩
  unfold roundWithAccuracy
  rw [hshifted]
  dsimp only
  rw [shift_rounded hleast hsmall]
  exact toNat_pack_settled hleast hsmall (hge.imp id hmarked.le_rounded)

/-! ## Quotients and words -/

/-- The remainder of a division marks its quotient. -/
theorem marks_quotient (n : Nat) {d : Nat} (hd : 0 < d) :
    Marks (.ofMantissaAndAccuracy (n / d) (accuracyOfFraction (n % d) d)) (n / d : Rat) := by
  have hpos : (0 : Rat) < d := by exact_mod_cast hd
  have hsplit : (n : Rat) / d = (n / d : Nat) + (n % d : Nat) / d := by
    have hn : (n : Rat) = d * (n / d : Nat) + (n % d : Nat) := by
      exact_mod_cast (Nat.div_add_mod n d).symm
    rw [div_eq_iff (ne_of_gt hpos), add_mul, div_mul_cancel₀ _ (ne_of_gt hpos),
      mul_comm _ (d : Rat)]
    exact hn
  have hlt : ((n % d : Nat) : Rat) / d < 1 := by
    rw [div_lt_one hpos]
    exact_mod_cast Nat.mod_lt n hd
  rw [hsplit]
  unfold accuracyOfFraction
  -- nothing is left over: no bit follows
  by_cases hexact : n % d = 0
  · rw [if_pos hexact, hexact]
    simp [ExtendedMantissa.ofMantissaAndAccuracy, Marks, coarse]
  rw [if_neg hexact]
  have hrest : (0 : Rat) < (n % d : Nat) / d := by
    have hmod : (0 : Rat) < (n % d : Nat) := by exact_mod_cast Nat.pos_of_ne_zero hexact
    positivity
  rcases Nat.lt_trichotomy (2 * (n % d)) d with hless | heq | hmore
  · -- below the half the round bit is off and the sticky bit on
    have hhalf : ((n % d : Nat) : Rat) / d < 1 / 2 := by
      rw [div_lt_div_iff₀ hpos (by norm_num)]
      have hless : (2 : Rat) * (n % d : Nat) < d := by exact_mod_cast hless
      linarith
    rw [Nat.compare_eq_lt.2 hless]
    simp only [ExtendedMantissa.ofMantissaAndAccuracy, Marks, coarse]
    constructor <;> simp <;> linarith
  · -- at the half the round bit alone is on
    have hhalf : ((n % d : Nat) : Rat) / d = 1 / 2 := by
      rw [div_eq_div_iff (ne_of_gt hpos) (by norm_num)]
      have heq : (2 : Rat) * (n % d : Nat) = d := by exact_mod_cast heq
      linarith
    rw [Nat.compare_eq_eq.2 heq]
    simp only [ExtendedMantissa.ofMantissaAndAccuracy, Marks, coarse]
    simp [hhalf]
  · have hhalf : (1 : Rat) / 2 < (n % d : Nat) / d := by
      rw [div_lt_div_iff₀ (by norm_num) hpos]
      have hmore : (d : Rat) < 2 * (n % d : Nat) := by exact_mod_cast hmore
      linarith
    rw [Nat.compare_eq_gt.2 hmore]
    simp only [ExtendedMantissa.ofMantissaAndAccuracy, Marks, coarse]
    constructor <;> simp <;> linarith

theorem two_pow_le_shiftLeft {m s k : Nat} (hm : m ≠ 0) (h : k ≤ m.log2 + s) : 2 ^ k ≤ m <<< s := by
  rw [Nat.shiftLeft_eq]
  calc 2 ^ k ≤ 2 ^ (m.log2 + s) := Nat.pow_le_pow_right (by decide) h
    _ = 2 ^ m.log2 * 2 ^ s := Nat.pow_add _ _ _
    _ ≤ m * 2 ^ s := Nat.mul_le_mul_right _ (Nat.log2_self_le hm)

/-- The dividend is shifted first, so that the quotient has enough bits. -/
theorem rounds_divCore {m₁ m₂ : Nat} (e₁ e₂ : Int) (h₁ : 0 < m₁) (h₂ : 0 < m₂) :
    let core := divCore Format.binary64 m₁ e₁ m₂ e₂
    Rounds (m₁ * 2 ^ e₁ / (m₂ * 2 ^ e₂)) (UnpackedFloat.pack Format.binary64
      (roundWithAccuracy Format.binary64 .positive core.1 core.2.1 core.2.2)).toNat := by
  intro core
  obtain ⟨e, he⟩ : ∃ e, e = min (e₁ - e₂) (Format.binary64.targetExponent
    (totalExponent m₁ e₁ - totalExponent m₂ e₂)) := ⟨_, rfl⟩
  obtain ⟨s, hs⟩ : ∃ s, s = (e₁ - e₂ - e).toNat := ⟨_, rfl⟩
  have hcore : core = (m₁ <<< s / m₂, e, accuracyOfFraction (m₁ <<< s % m₂) m₂) := by
    show divCore Format.binary64 m₁ e₁ m₂ e₂ = _
    rw [divCore, ← he, ← hs]
  rw [targetExponent_eq, totalExponent, totalExponent] at he
  have hscale : (m₁ * 2 ^ e₁ / (m₂ * 2 ^ e₂) : Rat) / 2 ^ e = ((m₁ <<< s : Nat) : Rat) / m₂ := by
    have hsplit : (2 : Rat) ^ e₁ = 2 ^ s * 2 ^ e * 2 ^ e₂ := by
      rw [← zpow_natCast, ← zpow_add₀ (by norm_num), ← zpow_add₀ (by norm_num)]
      congr 1
      omega
    have hm : (m₂ : Rat) ≠ 0 := by exact_mod_cast Nat.ne_of_gt h₂
    rw [hsplit, Nat.shiftLeft_eq, Nat.cast_mul, Nat.cast_pow, Nat.cast_ofNat]
    field_simp
  rw [hcore]
  refine rounds_roundWithAccuracy (hscale ▸ marks_quotient _ h₂) ?_
  -- subnormals end at the least power anyway
  by_cases hleast : e ≤ -1074
  · exact Or.inl hleast
  · -- the dividend is longer than the divisor by 53 bits
    right
    rw [Nat.le_div_iff_mul_le h₂]
    calc 2 ^ 52 * m₂ ≤ 2 ^ 52 * 2 ^ (m₂.log2 + 1) :=
          Nat.mul_le_mul_left _ (Nat.le_of_lt Nat.lt_log2_self)
      _ = 2 ^ (52 + (m₂.log2 + 1)) := (Nat.pow_add _ _ _).symm
      _ ≤ m₁ <<< s := two_pow_le_shiftLeft (by omega) (by omega)

theorem rounds_zero : Rounds 0 0 := by
  have h := rounds_value (n := 0) (Nat.zero_le _)
  rwa [value_zero] at h

/-- A mantissa times a power of two: a short mantissa gets zeros, so that it has enough bits. -/
theorem rounds_round {n : Nat} (hn : 0 < n) (e : Int) : Rounds (n * 2 ^ e)
    (UnpackedFloat.pack Format.binary64
      (UnpackedFloat.round Format.binary64 .positive n e)).toNat := by
  obtain ⟨s, hs⟩ : ∃ s, s = (e - Format.binary64.targetExponent (totalExponent n e)).toNat :=
    ⟨_, rfl⟩
  have hround : UnpackedFloat.round Format.binary64 .positive n e =
      roundWithAccuracy Format.binary64 .positive (n <<< s) (e - s) .exact := by
    rw [UnpackedFloat.round, decreaseExponent, ← hs]
  rw [targetExponent_eq, totalExponent] at hs
  have hscale : (n * 2 ^ e : Rat) / 2 ^ (e - (s : Int)) = (n <<< s : Nat) := by
    rw [mul_div_assoc, ← zpow_sub₀ (by norm_num), sub_sub_cancel, zpow_natCast, Nat.shiftLeft_eq,
      Nat.cast_mul, Nat.cast_pow, Nat.cast_ofNat]
  rw [hround]
  refine rounds_roundWithAccuracy (hscale ▸ marks_natCast _) ?_
  by_cases hleast : e - (s : Int) ≤ -1074
  · exact Or.inl hleast
  · exact Or.inr (two_pow_le_shiftLeft (by omega) (by omega))

theorem rounds_normalize (n : Nat) (e : Int) : Rounds (n * 2 ^ e)
    (UnpackedFloat.pack Format.binary64
      (UnpackedFloat.normalize Format.binary64 n e .positive)).toNat := by
  rcases Nat.eq_zero_or_pos n with hzero | hpos
  · subst hzero
    rw [Nat.cast_zero, zero_mul]
    exact rounds_zero
  · have hcompare : compare (n : Int) 0 = .gt := Int.compare_eq_gt.2 (by omega)
    unfold UnpackedFloat.normalize
    rw [hcompare, Int.toNat_natCast]
    exact rounds_round hpos e

theorem rounds_ofNat (n : Nat) :
    Rounds n (UnpackedFloat.pack Format.binary64
      (UnpackedFloat.ofNat Format.binary64 n)).toNat := by
  have hrounds := rounds_normalize n 0
  rwa [zpow_zero, mul_one] at hrounds

/-! ## Doubles as numbers -/

/-- The number of a double that is not negative. -/
def number (x : Float) : Rat := (binaryOfBits x.toBits.toNat).value

/-- A double above zero that stands for its number. -/
def Proper (x : Float) : Prop := 0 < x.toBits.toNat ∧ x.toBits.toNat < infinityBits

section Numbers

variable {x y : Float}

theorem Proper.mantissa_pos (h : Proper x) : 0 < (binaryOfBits x.toBits.toNat).mantissa :=
  Precis.Decimal.mantissa_pos h.1 (Nat.le_of_lt h.2)

theorem Proper.number_pos (h : Proper x) : 0 < number x := by
  have hm : (0 : Rat) < (binaryOfBits x.toBits.toNat).mantissa := by exact_mod_cast h.mantissa_pos
  unfold number Binary.value
  positivity

theorem Proper.unpack_eq (h : Proper x) : x.toModel.unpack =
    .finite .positive (binaryOfBits x.toBits.toNat).mantissa (binaryOfBits x.toBits.toNat).exponent
      h.mantissa_pos :=
  unpack_of_pos (b := x.toModel.toBits.toBitVec) h.2 _

theorem unpack_eq_zero (h : x.toBits.toNat = 0) : x.toModel.unpack = .zero .positive := by
  have hbits : x.toModel.toBits = 0 := UInt64.toNat_inj.1 h
  unfold Float.Model.unpack
  rw [hbits]
  rfl

theorem number_eq_zero (h : x.toBits.toNat = 0) : number x = 0 := by
  rw [number, h, value_zero]

theorem rounds_div (hx : x.toBits.toNat < infinityBits) (hy : Proper y) :
    Rounds (number x / number y) (x / y).toBits.toNat := by
  show Rounds _ (UnpackedFloat.pack Format.binary64
    (UnpackedFloat.div Format.binary64 x.toModel.unpack y.toModel.unpack)).toNat
  rw [hy.unpack_eq]
  rcases Nat.eq_zero_or_pos x.toBits.toNat with hzero | hpos
  · -- zero divided is zero
    rw [unpack_eq_zero hzero, number_eq_zero hzero, zero_div]
    exact rounds_zero
  · have hx : Proper x := ⟨hpos, hx⟩
    rw [hx.unpack_eq]
    exact rounds_divCore _ _ hx.mantissa_pos hy.mantissa_pos

theorem rounds_toFloat (n : UInt64) : Rounds n.toNat n.toFloat.toBits.toNat := rounds_ofNat n.toNat

theorem number_one : number 1 = 1 := by
  have hbits : binaryOfBits (1 : Float).toBits.toNat = ⟨2 ^ 52, -52⟩ := by decide +kernel
  rw [number, hbits, Binary.value]
  norm_num

/-- Dividing one by a number and rounding leaves an error of half a unit, unless the quotient is too
small or too large for a normal double. -/
theorem number_reciprocal {x : Float} (hx : Proper x) (hy : (1 / x).toBits.toNat < infinityBits)
    (hlarge : number x ≤ 2 ^ (1000 : Int)) :
    1 - halfUnit ≤ number (1 / x) * number x ∧ number (1 / x) * number x ≤ 1 + halfUnit := by
  have hpos := hx.number_pos
  have hrounds := rounds_div (x := 1) (by decide) hx
  rw [number_one] at hrounds
  have hnormal : (2 : Rat) ^ (-1022 : Int) ≤ 1 / number x := by
    rw [le_div_iff₀ hpos]
    calc (2 : Rat) ^ (-1022 : Int) * number x ≤ 2 ^ (-1022 : Int) * 2 ^ (1000 : Int) :=
          mul_le_mul_of_nonneg_left hlarge (by positivity)
      _ = 2 ^ (-22 : Int) := by rw [← zpow_add₀ (by norm_num)]; rfl
      _ ≤ 1 := by norm_num
  have hlow := hrounds.le_value hnormal hy
  have hhigh := hrounds.value_le hnormal
  rw [div_mul_eq_mul_div, one_mul, div_le_iff₀ hpos] at hlow
  rw [div_mul_eq_mul_div, one_mul, le_div_iff₀ hpos] at hhigh
  exact ⟨hlow, hhigh⟩

theorem proper_reciprocal {x : Float} (hx : Proper x) (hsmall : 2 ^ (-1000 : Int) ≤ number x)
    (hlarge : number x ≤ 2 ^ (1000 : Int)) : Proper (1 / x) := by
  have hpos := hx.number_pos
  have hrounds := rounds_div (x := 1) (by decide) hx
  rw [number_one] at hrounds
  have hlt : (1 / x).toBits.toNat < infinityBits := by
    refine hrounds.lt_infinityBits ?_
    rw [div_le_iff₀ hpos]
    calc (1 : Rat) = 2 ^ (1000 : Int) * 2 ^ (-1000 : Int) := by rw [← zpow_add₀ (by norm_num)]; rfl
      _ ≤ 2 ^ (1000 : Int) * number x := mul_le_mul_of_nonneg_left hsmall (by positivity)
  refine ⟨Nat.pos_of_ne_zero ?_, hlt⟩
  intro hzero
  have hlow := (number_reciprocal hx hlt hlarge).1
  rw [number_eq_zero hzero, zero_mul] at hlow
  have hunit := halfUnit_lt_one
  linarith

/-! ## Words as doubles -/

theorem toBits_toFloat_lt (n : UInt64) : n.toFloat.toBits.toNat < infinityBits :=
  (rounds_toFloat n).lt_infinityBits_of_word (Nat.le_of_lt n.toNat_lt)

theorem toBits_zero_toFloat : (0 : UInt64).toFloat.toBits.toNat = 0 :=
  Nat.le_zero.1 ((rounds_toFloat 0).le rounds_zero (le_refl _))

/-- The double of a word is off by at most half a unit. -/
theorem number_toFloat (n : UInt64) :
    n.toNat * (1 - halfUnit) ≤ number n.toFloat ∧ number n.toFloat ≤ n.toNat * (1 + halfUnit) := by
  by_cases hzero : n = 0
  · subst hzero
    rw [number_eq_zero toBits_zero_toFloat]
    simp
  · have hone : (1 : Rat) ≤ n.toNat := by
      have hpos : 1 ≤ n.toNat := Nat.one_le_iff_ne_zero.2 fun h => hzero (UInt64.toNat_inj.1 h)
      exact_mod_cast hpos
    have hnormal : (2 : Rat) ^ (-1022 : Int) ≤ n.toNat :=
      le_trans (zpow_le_one_of_nonpos₀ (by norm_num) (by decide)) hone
    exact ⟨(rounds_toFloat n).le_value hnormal (toBits_toFloat_lt n),
      (rounds_toFloat n).value_le hnormal⟩

/-! ## Comparison -/

/-- Nothing with a minus sign is above zero. -/
theorem not_zero_lt_of_sign {b : BitVec 64} (h : @unpackSign Format.binary64 b ≠ 0#1) :
    ¬ UnpackedFloat.lt (.zero .positive) (UnpackedFloat.unpack Format.binary64 b) = true := by
  have hminus : Sign.ofBitVec (@unpackSign Format.binary64 b) = .negative := if_neg h
  unfold UnpackedFloat.unpack
  dsimp only
  rw [hminus]
  -- the exponent of infinities and of what is no number
  by_cases hones : @unpackExponent Format.binary64 b = -1#11
  · rw [if_pos hones]
    by_cases hinfinite : @unpackMantissa Format.binary64 b = 0#52
    · rw [if_pos hinfinite]
      exact Bool.false_ne_true
    · rw [if_neg hinfinite]
      exact Bool.false_ne_true
  rw [if_neg hones]
  -- the exponent of zero and of subnormals
  by_cases hsubnormal : @unpackExponent Format.binary64 b = 0#11
  · rw [if_pos hsubnormal]
    by_cases hzero : @unpackMantissa Format.binary64 b = 0#52
    · rw [dif_pos hzero]
      exact Bool.false_ne_true
    · rw [dif_neg hzero]
      exact Bool.false_ne_true
  · rw [if_neg hsubnormal]
    exact Bool.false_ne_true

/-- Beyond infinity stand what is no number, and everything with a sign. -/
theorem zero_lt_unpack_iff (b : BitVec 64) :
    UnpackedFloat.lt (.zero .positive) (UnpackedFloat.unpack Format.binary64 b) = true ↔
      0 < b.toNat ∧ b.toNat ≤ infinityBits := by
  rcases Nat.lt_trichotomy b.toNat infinityBits with hless | heq | hmore
  · rcases Nat.eq_zero_or_pos b.toNat with hzero | hpos
    · have hb : b = 0 := BitVec.eq_of_toNat_eq hzero
      subst hb
      decide
    · rw [unpack_of_pos hless (mantissa_pos hpos (Nat.le_of_lt hless))]
      exact iff_of_true rfl ⟨hpos, Nat.le_of_lt hless⟩
  · have hb : b = BitVec.ofNat 64 infinityBits := BitVec.eq_of_toNat_eq heq
    subst hb
    decide
  · refine iff_of_false ?_ (by omega)
    have hmantissa := toNat_unpackMantissa b
    have hexponent := toNat_unpackExponent b
    have hsign := toNat_unpackSign b
    have hlt := b.isLt
    rw [infinityBits_eq] at hmore
    unfold UnpackedFloat.unpack
    dsimp only
    by_cases hpositive : @unpackSign Format.binary64 b = 0#1
    · -- the sign bit is off, so the other bits say it all
      rw [hpositive] at hsign
      change 0 = _ at hsign
      have hones : @unpackExponent Format.binary64 b = -1#11 := by
        apply BitVec.eq_of_toNat_eq
        rw [hexponent]
        show _ = 2047
        omega
      have hrest : @unpackMantissa Format.binary64 b ≠ 0#52 := by
        intro hzero
        rw [hzero] at hmantissa
        change 0 = _ at hmantissa
        omega
      rw [if_pos hones, if_neg hrest]
      decide
    · exact not_zero_lt_of_sign hpositive

theorem zero_lt_iff (x : Float) : 0 < x ↔ 0 < x.toBits.toNat ∧ x.toBits.toNat ≤ infinityBits :=
  Iff.trans decide_eq_true_iff (zero_lt_unpack_iff x.toModel.toBits.toBitVec)

/-- The order of doubles is that of their exponents, and then of their mantissas: the order of their
bits. -/
theorem Proper.le_iff (hx : Proper x) (hy : Proper y) :
    x ≤ y ↔ x.toBits.toNat ≤ y.toBits.toNat := by
  have hxb := bits_binaryOfBits (Nat.le_of_lt hx.2)
  have hyb := bits_binaryOfBits (Nat.le_of_lt hy.2)
  have hxc := canonical_binaryOfBits x.toBits.toNat
  have hyc := canonical_binaryOfBits y.toBits.toNat
  have hle : x ≤ y ↔ UnpackedFloat.le x.toModel.unpack y.toModel.unpack = true := decide_eq_true_iff
  rw [hle, hx.unpack_eq, hy.unpack_eq]
  unfold UnpackedFloat.le UnpackedFloat.compare
  dsimp only [Option.any_some]
  conv_rhs => rw [← hxb, ← hyb, Binary.bits, Binary.bits]
  have hsmall := hxc.small
  have hsmall' := hyc.small
  have hleast := hxc.least
  have hleast' := hyc.least
  have hfull := hxc.full
  have hfull' := hyc.full
  rcases Int.lt_trichotomy (binaryOfBits x.toBits.toNat).exponent
      (binaryOfBits y.toBits.toNat).exponent with hless | heq | hmore
  · rw [Int.compare_eq_lt.2 hless]
    refine iff_of_true rfl ?_
    omega
  · rw [Int.compare_eq_eq.2 heq, heq, Nat.add_le_add_iff_left]
    exact Nat.isLE_compare
  · rw [Int.compare_eq_gt.2 hmore]
    refine iff_of_false Bool.false_ne_true ?_
    omega

theorem number_le_of_le (hx : Proper x) (hy : Proper y) (h : x ≤ y) :
    number x ≤ number y :=
  value_mono ((hx.le_iff hy).1 h) (Nat.le_of_lt hy.2)

/-! ## Whole numbers -/

/-- A power of two as the quotient of two whole ones. -/
theorem zpow_eq_div (e : Int) : (2 : Rat) ^ e = 2 ^ e.toNat / 2 ^ (-e).toNat := by
  rw [← zpow_natCast, ← zpow_natCast, ← zpow_sub₀ (by norm_num)]
  congr 1
  omega

theorem toNat_ofNatClamp_le (n : Nat) : (UInt64.ofNatClamp n).toNat ≤ n := by
  -- what fits the word is kept
  rcases Nat.lt_or_ge n UInt64.size with hsmall | hlarge
  · rw [UInt64.toNat_ofNatClamp_of_lt hsmall]
  · rw [UInt64.toNat_ofNatClamp_of_le hlarge]
    omega

/-- What is cut off is not below zero. -/
theorem roundToInt_le (b : Binary) :
    ((roundToInt .positive b.mantissa b.exponent).toNat : Rat) ≤ b.value := by
  obtain ⟨m, e⟩ := b
  have hround : roundToInt .positive m e
      = (ExtendedMantissa.mk (m <<< e.toNat) false false >>> (-e).toNat).mantissa := by
    have hshift : (0 - (e - (e.toNat : Int))).toNat = (-e).toNat := by omega
    rw [roundToInt, decreaseExponent, Int.sub_zero]
    dsimp only
    rw [shiftToExponent, hshift]
    rfl
  have hmem := ((marks_natCast (m <<< e.toNat)).shiftRight (-e).toNat).mem_mantissa.1
  rw [hround, Int.toNat_natCast]
  refine le_trans hmem (le_of_eq ?_)
  rw [Binary.value, zpow_eq_div, Nat.shiftLeft_eq, Nat.cast_mul, Nat.cast_pow, Nat.cast_ofNat,
    mul_div_assoc]

/-- A double cut to a word is not larger than the double. -/
theorem toUInt64_le (hx : x.toBits.toNat ≤ infinityBits) :
    (x.toUInt64.toNat : Rat) ≤ number x := by
  have hword : x.toUInt64 = UInt64.ofNatClamp (x.toModel.unpack.toInt 0 (UInt64.size - 1)).toNat :=
    rfl
  rcases Nat.eq_zero_or_pos x.toBits.toNat with hzero | hpos
  · -- zero
    rw [hword, unpack_eq_zero hzero, number_eq_zero hzero]
    exact le_of_eq rfl
  rcases Nat.lt_or_eq_of_le hx with hlt | heq
  · -- a positive finite double is cut off, which makes it no larger
    rw [hword, Proper.unpack_eq ⟨hpos, hlt⟩]
    refine le_trans ?_ (roundToInt_le (binaryOfBits x.toBits.toNat))
    exact Nat.cast_le.2 (toNat_ofNatClamp_le _)
  · have hlt : (x.toUInt64.toNat : Rat) ≤ 2 ^ 64 := by
      exact_mod_cast Nat.le_of_lt x.toUInt64.toNat_lt
    rw [number, heq]
    exact le_trans hlt two_pow_le_value_infinityBits

theorem ceil_le_iff (b : Binary) (n : Nat) : b.ceil ≤ n ↔ b.value ≤ n := by
  obtain ⟨m, e⟩ := b
  have hunit : 0 < Nat.pow 2 (-e).toNat := Nat.two_pow_pos _
  have hpos : (0 : Rat) < 2 ^ (-e).toNat := by positivity
  have hceil : (Binary.mk m e).ceil ≤ n ↔ m * 2 ^ e.toNat ≤ n * 2 ^ (-e).toNat := by
    unfold Binary.ceil
    dsimp only
    rw [Nat.div_le_iff_le_mul_add_pred hunit, Nat.mul_comm n]
    show m * 2 ^ e.toNat + (2 ^ (-e).toNat - 1) ≤ 2 ^ (-e).toNat * n + (2 ^ (-e).toNat - 1) ↔ _
    omega
  rw [hceil, Binary.value, zpow_eq_div, ← mul_div_assoc, div_le_iff₀ hpos]
  exact_mod_cast Iff.rfl

end Numbers

end Precis.Decimal
