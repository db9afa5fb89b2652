import Precis.Proofs.Decimal.Rounding

/-!
# Doubles and their bits

The bits of a double that is not negative are a mantissa and an exponent in one number, so that
larger bits are larger doubles: `value_mono`. A double that `Rounds` a number is off by at most half
a unit of its last place (`Rounds.value_le`, `Rounds.le_value`), as long as the number is not below
the normal doubles. Infinity stands for the first power of two that is too large.
-/

namespace Precis.Decimal

open Float.Model Float.Model.UnpackedFloat

theorem infinityBits_eq : infinityBits = 2047 * 2 ^ 52 := rfl

/-! ## Canonical forms -/

namespace Binary

/-- The number itself. -/
def value (b : Binary) : Rat := b.mantissa * 2 ^ b.exponent

/-- The bits of the double, unless it is too large for one. -/
def bits (b : Binary) : Nat := (b.exponent + 1074).toNat * 2 ^ 52 + b.mantissa

/-- The mantissa has 53 bits, or the exponent is the least that there is. -/
structure Canonical (b : Binary) : Prop where
  least : -1074 ≤ b.exponent
  small : b.mantissa < 2 ^ 53
  full : b.exponent = -1074 ∨ 2 ^ 52 ≤ b.mantissa

/-- A mantissa that was rounded, with its exponent: rounding may have made it one bit longer. -/
def settled (m : Nat) (e : Int) : Binary := if m = 2 ^ 53 then ⟨2 ^ 52, e + 1⟩ else ⟨m, e⟩

section Settled

variable {m : Nat} {e : Int}

theorem canonical_settled (he : -1074 ≤ e) (hm : m ≤ 2 ^ 53) (hfull : e = -1074 ∨ 2 ^ 52 ≤ m) :
    (settled m e).Canonical := by
  unfold settled
  split
  · -- a full mantissa of one bit more counts at the next power
    exact ⟨Int.le_trans he (Int.le_add_one (Int.le_refl e)),
      Nat.pow_lt_pow_right (by omega) (by omega), Or.inr (Nat.le_refl _)⟩
  · rename_i hne
    exact ⟨he, Nat.lt_of_le_of_ne hm hne, hfull⟩

theorem bits_settled (he : -1074 ≤ e) : (settled m e).bits = (e + 1074).toNat * 2 ^ 52 + m := by
  unfold settled
  split
  · rename_i heq
    show (e + 1 + 1074).toNat * 2 ^ 52 + 2 ^ 52 = _
    omega
  · rfl

theorem value_settled (m : Nat) (e : Int) : (settled m e).value = m * 2 ^ e := by
  unfold settled
  split
  · rename_i heq
    rw [heq, value, zpow_add_one₀ (by norm_num)]
    push_cast
    ring
  · rfl

end Settled

end Binary

theorem canonical_binaryOfBits (n : Nat) : (binaryOfBits n).Canonical := by
  have hfraction : n % Nat.pow 2 52 < 2 ^ 52 := Nat.mod_lt n (Nat.two_pow_pos 52)
  unfold binaryOfBits
  dsimp only
  split
  · -- subnormals all have the least exponent
    exact ⟨Int.le_refl _, Nat.lt_trans hfraction (by decide), Or.inl rfl⟩
  · rename_i hfield
    refine ⟨?_, ?_, Or.inr (Nat.le_add_right _ _)⟩
    · dsimp only
      omega
    · show 2 ^ 52 + n % Nat.pow 2 52 < 2 ^ 53
      omega

/-- No two doubles up to infinity have the same mantissa and exponent. -/
theorem bits_binaryOfBits {n : Nat} (h : n ≤ infinityBits) : (binaryOfBits n).bits = n := by
  rw [infinityBits_eq] at h
  have hfield : n / Nat.pow 2 52 % Nat.pow 2 11 = n / 2 ^ 52 :=
    Nat.mod_eq_of_lt (show n / 2 ^ 52 < 2 ^ 11 by omega)
  unfold binaryOfBits
  dsimp only
  rw [hfield]
  split
  · -- a subnormal is its fraction
    show (-1074 + 1074 : Int).toNat * 2 ^ 52 + n % 2 ^ 52 = n
    omega
  · show (((n / 2 ^ 52 : Nat) : Int) - 1075 + 1074).toNat * 2 ^ 52 + (2 ^ 52 + n % 2 ^ 52) = n
    omega

/-- A double above zero has a mantissa above zero. -/
theorem mantissa_pos {n : Nat} (hpos : 0 < n) (h : n ≤ infinityBits) :
    0 < (binaryOfBits n).mantissa := by
  have hbits := bits_binaryOfBits h
  have hfull := (canonical_binaryOfBits n).full
  rw [Binary.bits] at hbits
  omega

theorem Binary.Canonical.eq_of_bits {b b' : Binary} (h : b.Canonical) (h' : b'.Canonical)
    (hbits : b.bits = b'.bits) : b = b' := by
  obtain ⟨hleast, hsmall, hfull⟩ := h
  obtain ⟨hleast', hsmall', hfull'⟩ := h'
  obtain ⟨m, e⟩ := b
  obtain ⟨m', e'⟩ := b'
  simp only [Binary.bits] at *
  -- the mantissas are too short to make up for a difference of the exponents
  have he : e = e' := by omega
  subst he
  have hm : m = m' := by omega
  rw [hm]

theorem Binary.Canonical.binaryOfBits_bits {b : Binary} (h : b.Canonical)
    (hb : b.bits ≤ infinityBits) : binaryOfBits b.bits = b :=
  (canonical_binaryOfBits _).eq_of_bits h (bits_binaryOfBits hb)

theorem Binary.Canonical.value_lt {b : Binary} (h : b.Canonical) :
    b.value < 2 ^ (53 + b.exponent) := by
  have hm : (b.mantissa : Rat) < 2 ^ 53 := by exact_mod_cast h.small
  rw [Binary.value, zpow_add₀ (by norm_num)]
  exact mul_lt_mul_of_pos_right hm (by positivity)

theorem Binary.le_value {b : Binary} (h : 2 ^ 52 ≤ b.mantissa) :
    2 ^ (52 + b.exponent) ≤ b.value := by
  have hm : (2 : Rat) ^ 52 ≤ b.mantissa := by exact_mod_cast h
  rw [Binary.value, zpow_add₀ (by norm_num)]
  exact mul_le_mul_of_nonneg_right hm (by positivity)

theorem Binary.Canonical.rounds {b : Binary} (h : b.Canonical) (hb : b.bits ≤ infinityBits) :
    Rounds b.value b.bits := by
  have hpos : (0 : Rat) < 2 ^ b.exponent := by positivity
  refine ⟨⟨b.mantissa, false, false⟩, b.exponent, h.least, h.value_lt,
    h.full.imp id Binary.le_value, ?_, ?_⟩
  · rw [Binary.value, mul_div_assoc, div_self (ne_of_gt hpos), mul_one]
    exact marks_natCast _
  · rw [roundedMantissa_exact]
    exact (Nat.min_eq_left hb).symm

/-- A double is the nearest double to itself. -/
theorem rounds_value {n : Nat} (h : n ≤ infinityBits) : Rounds (binaryOfBits n).value n := by
  have hn := bits_binaryOfBits h
  have hrounds := (canonical_binaryOfBits n).rounds (hn.symm ▸ h)
  rwa [hn] at hrounds

/-- Larger bits are larger numbers. -/
theorem value_mono {m n : Nat} (h : m ≤ n) (hn : n ≤ infinityBits) :
    (binaryOfBits m).value ≤ (binaryOfBits n).value := by
  by_contra hgt
  rw [not_le] at hgt
  have hle := (rounds_value hn).le (rounds_value (Nat.le_trans h hn)) (le_of_lt hgt)
  rw [Nat.le_antisymm h hle] at hgt
  exact lt_irrefl _ hgt

theorem value_zero : (binaryOfBits 0).value = 0 := by
  simp [Binary.value, binaryOfBits]

/-! ## The error of rounding -/

/-- A power of two that has all of its 53 bits. -/
def Binary.power (e : Int) : Binary := ⟨2 ^ 52, e⟩

namespace Binary

variable {e : Int}

theorem canonical_power (he : -1074 ≤ e) : (power e).Canonical :=
  ⟨he, Nat.pow_lt_pow_right (by omega) (by omega), Or.inr (Nat.le_refl _)⟩

theorem bits_power (he : -1074 ≤ e) : (power e).bits = (e + 1075).toNat * 2 ^ 52 := by
  show (e + 1074).toNat * 2 ^ 52 + 2 ^ 52 = _
  omega

theorem value_power (e : Int) : (power e).value = 2 ^ (52 + e) := by
  rw [power, value, Nat.cast_pow, Nat.cast_ofNat, ← zpow_natCast, ← zpow_add₀ (by norm_num)]
  rfl

/-- Such a power is a double, unless it is infinity or more. -/
theorem rounds_power (he : -1074 ≤ e) (hlt : e < 972) :
    Rounds (2 ^ (52 + e)) ((e + 1075).toNat * 2 ^ 52) ∧
      (e + 1075).toNat * 2 ^ 52 < infinityBits := by
  have hbits : (power e).bits < infinityBits := by
    rw [bits_power he, infinityBits_eq]
    omega
  have hrounds := (canonical_power he).rounds (Nat.le_of_lt hbits)
  rw [value_power, bits_power he] at hrounds
  exact ⟨hrounds, bits_power he ▸ hbits⟩

end Binary

/-- The number that infinity stands for. -/
theorem value_infinityBits : (binaryOfBits infinityBits).value = 2 ^ (1024 : Int) := by
  have hbits : (Binary.power 972).bits = infinityBits := Binary.bits_power (by decide)
  have hb := (Binary.canonical_power (e := 972) (by decide)).binaryOfBits_bits (Nat.le_of_eq hbits)
  rw [hbits] at hb
  rw [hb, Binary.value_power]
  rfl

theorem two_pow_le_value_infinityBits : (2 : Rat) ^ 64 ≤ (binaryOfBits infinityBits).value := by
  rw [value_infinityBits, ← zpow_natCast]
  exact zpow_le_zpow_right₀ (by norm_num) (by decide)

/-- What is not too large does not become infinity. -/
theorem Rounds.lt_infinityBits {x : Rat} {n : Nat} (h : Rounds x n) (hx : x ≤ 2 ^ (1000 : Int)) :
    n < infinityBits := by
  obtain ⟨hpower, hlt⟩ := Binary.rounds_power (e := 948) (by decide) (by decide)
  exact Nat.lt_of_le_of_lt (h.le hpower hx) hlt

theorem Rounds.lt_infinityBits_of_word {m n : Nat} (h : Rounds m n) (hm : m ≤ 2 ^ 64) :
    n < infinityBits := by
  have hword : (m : Rat) ≤ 2 ^ 64 := by exact_mod_cast hm
  refine h.lt_infinityBits (le_trans hword ?_)
  rw [← zpow_natCast]
  exact zpow_le_zpow_right₀ (by norm_num) (by decide)

/-- What is not too small does not become zero. -/
theorem Rounds.pos {x : Rat} {n : Nat} (h : Rounds x n) (hx : 2 ^ (-1000 : Int) ≤ x) : 0 < n := by
  obtain ⟨hpower, -⟩ := Binary.rounds_power (e := -1052) (by decide) (by decide)
  exact Nat.lt_of_lt_of_le (by decide) (hpower.le h hx)

/-- Half a unit of the last place, of a mantissa that is one. -/
def halfUnit : Rat := 2 ^ (-53 : Int)

theorem halfUnit_pos : 0 < halfUnit := by
  unfold halfUnit
  positivity

theorem halfUnit_lt_one : halfUnit < 1 := by
  unfold halfUnit
  norm_num

section Error

variable {x : Rat} {n : Nat}

theorem half_le_mul_halfUnit {t : Int} (h : 2 ^ (52 + t) ≤ x) : 1 / 2 * 2 ^ t ≤ x * halfUnit := by
  have hunit : (2 : Rat) ^ (52 + t) * halfUnit = 1 / 2 * 2 ^ t := by
    rw [halfUnit, zpow_add₀ (by norm_num)]
    norm_num
    ring
  rw [← hunit]
  exact mul_le_mul_of_nonneg_right h (le_of_lt halfUnit_pos)

/-- The mantissa and the exponent of a rounded number, before it is found to be too large. -/
theorem Rounds.exists_mantissa (h : Rounds x n) (hx : 2 ^ (-1022 : Int) ≤ x) :
    ∃ (m : Nat) (t : Int), -1074 ≤ t ∧ 2 ^ 52 ≤ m ∧ m ≤ 2 ^ 53 ∧
      n = min ((t + 1074).toNat * 2 ^ 52 + m) infinityBits ∧
      x * (1 - halfUnit) ≤ m * 2 ^ t ∧ m * 2 ^ t ≤ x * (1 + halfUnit) := by
  obtain ⟨em, t, ht, hlt, hge, hem, hn⟩ := h
  have hge : (2 : Rat) ^ (52 + t) ≤ x := by
    rcases hge with rfl | hge
    · exact hx
    · exact hge
  have hpos : (0 : Rat) < 2 ^ t := by positivity
  have hhalf := half_le_mul_halfUnit hge
  obtain ⟨hup, hdown⟩ := hem.near
  rw [← sub_le_iff_le_add, le_div_iff₀ hpos] at hup
  rw [div_le_iff₀ hpos] at hdown
  refine ⟨em.roundedMantissa, t, ht, hem.le_rounded hge, hem.rounded_le (le_of_lt hlt), hn,
    ?_, ?_⟩ <;> linarith

/-- Rounding makes a number larger by at most half a unit. -/
theorem Rounds.value_le (h : Rounds x n) (hx : 2 ^ (-1022 : Int) ≤ x) :
    (binaryOfBits n).value ≤ x * (1 + halfUnit) := by
  obtain ⟨m, t, ht, hfull, hm, rfl, -, hle⟩ := h.exists_mantissa hx
  refine le_trans ?_ hle
  have hbits := Binary.bits_settled (m := m) ht
  have hcanonical := Binary.canonical_settled ht hm (Or.inr hfull)
  rcases Nat.le_total ((t + 1074).toNat * 2 ^ 52 + m) infinityBits with hsmall | hlarge
  · -- the rounded number is finite
    rw [Nat.min_eq_left hsmall, ← hbits, hcanonical.binaryOfBits_bits (hbits ▸ hsmall),
      Binary.value_settled]
  · -- infinity stands for the least of the numbers that are too large
    rw [Nat.min_eq_right hlarge, value_infinityBits, ← Binary.value_settled]
    rw [← hbits, Binary.bits, infinityBits_eq] at hlarge
    have hsmall := hcanonical.small
    have hfull := hcanonical.full
    have hexponent : 1024 ≤ 52 + (Binary.settled m t).exponent := by omega
    have hmantissa : 2 ^ 52 ≤ (Binary.settled m t).mantissa := by omega
    exact le_trans (zpow_le_zpow_right₀ (by norm_num) hexponent) (Binary.le_value hmantissa)

/-- Below the normal doubles rounding brings a number up to the least of them at most. -/
theorem Rounds.value_le_max (h : Rounds x n) :
    (binaryOfBits n).value ≤ max x (2 ^ (-1022 : Int)) * (1 + halfUnit) := by
  rcases le_total (2 ^ (-1022 : Int)) x with hnormal | hsmall
  · -- normal numbers
    rw [max_eq_left hnormal]
    exact h.value_le hnormal
  · obtain ⟨hpower, hlt⟩ := Binary.rounds_power (e := -1074) (by decide) (by decide)
    rw [max_eq_right hsmall]
    exact le_trans (value_mono (h.le hpower hsmall) (Nat.le_of_lt hlt))
      (hpower.value_le (le_refl _))

/-- The least normal double is far below one. -/
theorem leastNormal_lt_one : (2 : Rat) ^ (-1022 : Int) * (1 + halfUnit) < 1 := by
  have hless : (2 : Rat) ^ (-1022 : Int) ≤ 2 ^ (-1 : Int) :=
    zpow_le_zpow_right₀ (by norm_num) (by decide)
  have hunit := halfUnit_lt_one
  have hpos := halfUnit_pos
  calc (2 : Rat) ^ (-1022 : Int) * (1 + halfUnit) ≤ 2 ^ (-1 : Int) * (1 + halfUnit) :=
        mul_le_mul_of_nonneg_right hless (by linarith)
    _ < 1 := by norm_num; linarith

/-- Rounding makes a number smaller by at most half a unit, unless it is too large for a double. -/
theorem Rounds.le_value (h : Rounds x n) (hx : 2 ^ (-1022 : Int) ≤ x) (hn : n < infinityBits) :
    x * (1 - halfUnit) ≤ (binaryOfBits n).value := by
  obtain ⟨m, t, ht, hfull, hm, rfl, hle, -⟩ := h.exists_mantissa hx
  have hsmall : (t + 1074).toNat * 2 ^ 52 + m ≤ infinityBits := by omega
  have hbits := Binary.bits_settled (m := m) ht
  rw [Nat.min_eq_left hsmall, ← hbits,
    (Binary.canonical_settled ht hm (Or.inr hfull)).binaryOfBits_bits (hbits ▸ hsmall),
    Binary.value_settled]
  exact hle

end Error

/-! ## Packed and unpacked -/

theorem toNat_packComponents (e : BitVec 11) (m : BitVec 52) :
    (packComponents Format.binary64 .positive e m).toNat = e.toNat * 2 ^ 52 + m.toNat := by
  unfold packComponents
  show ((0#1 ++ e) ++ m).toNat = _
  rw [BitVec.toNat_append, BitVec.toNat_append, ← Nat.shiftLeft_add_eq_or_of_lt m.isLt,
    Nat.shiftLeft_eq]
  simp

/-- A canonical form packs into its bits, or into infinity when it is too large. -/
theorem Binary.Canonical.toNat_pack {b : Binary} (h : b.Canonical) (hpos : 0 < b.mantissa) :
    (UnpackedFloat.pack Format.binary64 (.finite .positive b.mantissa b.exponent hpos)).toNat
      = min b.bits infinityBits := by
  obtain ⟨hleast, hsmall, hfull⟩ := h
  obtain ⟨m, e⟩ := b
  dsimp only at hpos hleast hsmall hfull
  have hlog : m.log2 + 1 = Format.binary64.mantissaBits ↔ 2 ^ 52 ≤ m := by
    have hlt := (Nat.log2_lt (by omega)).2 hsmall
    rw [← Nat.le_log2 (by omega)]
    show m.log2 + 1 = 53 ↔ _
    omega
  have hbiased : (e + (Format.binary64.exponentBias : Int) + (52 : Nat)).toNat =
      (e + 1075).toNat := by
    show (e + 1023 + 52).toNat = _
    omega
  unfold UnpackedFloat.pack
  dsimp only
  rw [hbiased, Binary.bits, infinityBits_eq]
  dsimp only
  by_cases hlarge : 2 ^ 11 ≤ (e + 1075).toNat + 1
  · -- the power is too large, and only infinity is left
    rw [if_pos hlarge, packedInfinity, toNat_packComponents]
    show 2047 * 2 ^ 52 + 0 = _
    omega
  rw [if_neg hlarge]
  by_cases hnormal : 2 ^ 52 ≤ m
  · -- the leading bit is not stored, and the exponent counts it
    rw [if_pos (hlog.2 hnormal), toNat_packComponents, BitVec.toNat_ofNat, BitVec.toNat_ofNat]
    omega
  · rw [if_neg (fun hm => hnormal (hlog.1 hm)), toNat_packComponents, BitVec.toNat_ofNat,
      BitVec.toNat_ofNat]
    omega

section Fields

variable (b : BitVec 64)

theorem toNat_unpackMantissa : (@unpackMantissa Format.binary64 b).toNat = b.toNat % 2 ^ 52 := by
  unfold unpackMantissa
  simp [BitVec.extractLsb]

theorem toNat_unpackExponent :
    (@unpackExponent Format.binary64 b).toNat = b.toNat / 2 ^ 52 % 2 ^ 11 := by
  unfold unpackExponent
  simp [BitVec.extractLsb, Nat.shiftRight_eq_div_pow]

theorem toNat_unpackSign : (@unpackSign Format.binary64 b).toNat = b.toNat / 2 ^ 63 % 2 := by
  unfold unpackSign
  simp [BitVec.extractLsb, Nat.shiftRight_eq_div_pow]

end Fields

theorem toNat_append_leading (m : BitVec 52) : (1#1 ++ m).toNat = 2 ^ 52 + m.toNat := by
  rw [BitVec.toNat_append, ← Nat.shiftLeft_add_eq_or_of_lt m.isLt]
  rfl

/-- Between zero and infinity the bits unpack to their canonical form. -/
theorem unpack_of_pos {b : BitVec 64} (hlt : b.toNat < infinityBits)
    (hm : 0 < (binaryOfBits b.toNat).mantissa) : UnpackedFloat.unpack Format.binary64 b =
      .finite .positive (binaryOfBits b.toNat).mantissa (binaryOfBits b.toNat).exponent hm := by
  have hmantissa := toNat_unpackMantissa b
  have hexponent := toNat_unpackExponent b
  rw [infinityBits_eq] at hlt
  have hsign : @unpackSign Format.binary64 b = 0#1 := by
    apply BitVec.eq_of_toNat_eq
    rw [toNat_unpackSign]
    show b.toNat / 2 ^ 63 % 2 = 0
    omega
  have hfinite : @unpackExponent Format.binary64 b ≠ -1#11 := by
    intro heq
    rw [heq] at hexponent
    change 2047 = _ at hexponent
    omega
  unfold UnpackedFloat.unpack
  dsimp only
  rw [hsign, if_neg hfinite]
  by_cases hsubnormal : @unpackExponent Format.binary64 b = 0#11
  · rw [if_pos hsubnormal]
    rw [hsubnormal] at hexponent ⊢
    have hb : binaryOfBits b.toNat = ⟨b.toNat % 2 ^ 52, -1074⟩ := if_pos hexponent.symm
    have hne : @unpackMantissa Format.binary64 b ≠ 0#52 := by
      intro heq
      rw [heq] at hmantissa
      rw [hb, ← hmantissa] at hm
      exact absurd hm (by decide)
    rw [dif_neg hne]
    congr 1
    · rw [hb, hmantissa]
    · rw [hb]
      rfl
  · rw [if_neg hsubnormal]
    have hpos : ¬ b.toNat / 2 ^ 52 % 2 ^ 11 = 0 := by
      intro hzero
      exact hsubnormal (BitVec.eq_of_toNat_eq (hexponent.trans hzero))
    have hb : binaryOfBits b.toNat =
        ⟨2 ^ 52 + b.toNat % 2 ^ 52, ((b.toNat / 2 ^ 52 % 2 ^ 11 : Nat) : Int) - 1075⟩ := if_neg hpos
    congr 1
    · rw [hb, toNat_append_leading, hmantissa]
    · rw [hb, hexponent]
      rfl

end Precis.Decimal
