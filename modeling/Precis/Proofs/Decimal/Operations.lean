import Precis.Proofs.Decimal.Arithmetic

/-!
# Sums, differences and products of doubles

Of doubles that are not negative the sum and the product are the doubles nearest to the sum and the
product of their numbers (`rounds_add`, `rounds_mul`), and so is the difference, if it is not
negative (`rounds_sub`): the operations find the exact mantissa before they round it. All but
products with infinity stay among the doubles without a sign (`Unsigned`), where the order is that
of the bits.
-/

namespace Precis.Decimal

open Float.Model Float.Model.UnpackedFloat

/-- A number that is not negative, or infinity. -/
def Unsigned (x : Float) : Prop := x.toBits.toNat ≤ infinityBits

/-- A number that is not negative. -/
def Definite (x : Float) : Prop := x.toBits.toNat < infinityBits

variable {x y : Float}

theorem Definite.unsigned (h : Definite x) : Unsigned x := Nat.le_of_lt h

theorem Proper.definite (h : Proper x) : Definite x := h.2

theorem Definite.eq_zero_or_proper (h : Definite x) : x.toBits.toNat = 0 ∨ Proper x :=
  (Nat.eq_zero_or_pos _).imp id fun hpos => ⟨hpos, h⟩

theorem Unsigned.eq_infinity_or_definite (h : Unsigned x) :
    x.toBits.toNat = infinityBits ∨ Definite x :=
  (Nat.lt_or_eq_of_le h).symm

theorem unpack_eq_infinity (h : x.toBits.toNat = infinityBits) :
    x.toModel.unpack = .infinity .positive := by
  have hbits : x.toModel.toBits = UInt64.ofNat infinityBits := UInt64.toNat_inj.1 h
  unfold Float.Model.unpack
  rw [hbits]
  rfl

theorem number_nonneg (x : Float) : 0 ≤ number x := by
  unfold number Binary.value
  positivity

/-- Nothing changes when a number is unpacked and packed. -/
theorem Proper.rounds_pack (h : Proper x) :
    Rounds (number x) (UnpackedFloat.pack Format.binary64 x.toModel.unpack).toNat := by
  have hbits := bits_binaryOfBits (Nat.le_of_lt h.2)
  rw [h.unpack_eq, (canonical_binaryOfBits _).toNat_pack, hbits, Nat.min_eq_left (Nat.le_of_lt h.2)]
  exact rounds_value (Nat.le_of_lt h.2)

/-! ## Products -/

/-- The mantissas are multiplied and the exponents added. -/
theorem rounds_product {a b : Binary} (ha : a.Canonical) (hb : b.Canonical) (hposa : 0 < a.mantissa)
    (hposb : 0 < b.mantissa) : Rounds (a.value * b.value) (UnpackedFloat.pack Format.binary64
      (roundWithAccuracy Format.binary64 .positive (a.mantissa * b.mantissa)
        (a.exponent + b.exponent) .exact)).toNat := by
  have hscale : a.value * b.value / 2 ^ (a.exponent + b.exponent)
      = ((a.mantissa * b.mantissa : Nat) : Rat) := by
    have hunit : (2 : Rat) ^ (a.exponent + b.exponent) ≠ 0 := by positivity
    rw [div_eq_iff hunit, zpow_add₀ (by norm_num), Nat.cast_mul, Binary.value, Binary.value]
    ring
  refine rounds_roundWithAccuracy (hscale ▸ marks_natCast _) ?_
  -- a factor that has all of its bits is enough, and of two that have not the product is small
  have hfull := ha.full
  have hfull' := hb.full
  rcases hfull with hleast | hfull
  · rcases hfull' with hleast' | hfull'
    · -- both are subnormal
      left
      omega
    · exact Or.inr (Nat.le_trans hfull' (Nat.le_mul_of_pos_left _ hposa))
  · exact Or.inr (Nat.le_trans hfull (Nat.le_mul_of_pos_right _ hposb))

theorem rounds_mul (hx : Definite x) (hy : Definite y) :
    Rounds (number x * number y) (x * y).toBits.toNat := by
  show Rounds _ (UnpackedFloat.pack Format.binary64
    (UnpackedFloat.mul Format.binary64 x.toModel.unpack y.toModel.unpack)).toNat
  rcases hx.eq_zero_or_proper with hzero | hx
  · -- zero times anything is zero
    rw [unpack_eq_zero hzero, number_eq_zero hzero, zero_mul]
    rcases hy.eq_zero_or_proper with hzero' | hy
    · rw [unpack_eq_zero hzero']
      exact rounds_zero
    · rw [hy.unpack_eq]
      exact rounds_zero
  rcases hy.eq_zero_or_proper with hzero | hy
  · -- anything times zero is zero
    rw [unpack_eq_zero hzero, number_eq_zero hzero, mul_zero, hx.unpack_eq]
    exact rounds_zero
  · rw [hx.unpack_eq, hy.unpack_eq]
    exact rounds_product (canonical_binaryOfBits _) (canonical_binaryOfBits _) hx.mantissa_pos
      hy.mantissa_pos

/-! ## Sums and differences -/

theorem shiftLeft_mul_zpow (m : Nat) {e t : Int} (h : t ≤ e) :
    ((m <<< (e - t).toNat : Nat) : Rat) * 2 ^ t = m * 2 ^ e := by
  rw [Nat.shiftLeft_eq, Nat.cast_mul, Nat.cast_pow, Nat.cast_ofNat, mul_assoc, ← zpow_natCast,
    ← zpow_add₀ (by norm_num)]
  congr 2
  omega

/-- Both mantissas are brought to the smaller exponent. -/
theorem rounds_sum (a b : Binary) : Rounds (a.value + b.value) (UnpackedFloat.pack Format.binary64
    (UnpackedFloat.normalize Format.binary64
      ((a.mantissa <<< (a.exponent - min a.exponent b.exponent).toNat : Nat)
        + (b.mantissa <<< (b.exponent - min a.exponent b.exponent).toNat : Nat))
      (min a.exponent b.exponent) .positive)).toNat := by
  rw [Binary.value, Binary.value, ← shiftLeft_mul_zpow _ (min_le_left a.exponent b.exponent),
    ← shiftLeft_mul_zpow _ (min_le_right a.exponent b.exponent), ← add_mul, ← Nat.cast_add]
  exact rounds_normalize _ _

theorem rounds_difference {a b : Binary} (h : b.value ≤ a.value) :
    Rounds (a.value - b.value) (UnpackedFloat.pack Format.binary64
      (UnpackedFloat.normalize Format.binary64
        ((a.mantissa <<< (a.exponent - min a.exponent b.exponent).toNat : Nat)
          - (b.mantissa <<< (b.exponent - min a.exponent b.exponent).toNat : Nat))
        (min a.exponent b.exponent) .positive)).toNat := by
  have hunit : (0 : Rat) < 2 ^ min a.exponent b.exponent := by positivity
  rw [Binary.value, Binary.value, ← shiftLeft_mul_zpow _ (min_le_left a.exponent b.exponent),
    ← shiftLeft_mul_zpow _ (min_le_right a.exponent b.exponent)] at h ⊢
  -- at one exponent the order is that of the mantissas, so nothing is borrowed
  have hle := Nat.cast_le.1 (le_of_mul_le_mul_right h hunit)
  rw [← sub_mul, ← Nat.cast_sub hle, ← Int.ofNat_sub hle]
  exact rounds_normalize _ _

theorem rounds_add (hx : Definite x) (hy : Definite y) :
    Rounds (number x + number y) (x + y).toBits.toNat := by
  show Rounds _ (UnpackedFloat.pack Format.binary64
    (UnpackedFloat.add Format.binary64 x.toModel.unpack y.toModel.unpack)).toNat
  rcases hx.eq_zero_or_proper with hzero | hx
  · -- zero adds nothing
    rw [unpack_eq_zero hzero, number_eq_zero hzero, zero_add]
    rcases hy.eq_zero_or_proper with hzero' | hy
    · rw [unpack_eq_zero hzero', number_eq_zero hzero']
      exact rounds_zero
    · have hrounds := hy.rounds_pack
      rw [hy.unpack_eq] at hrounds ⊢
      exact hrounds
  rcases hy.eq_zero_or_proper with hzero | hy
  · -- nothing is added
    have hrounds := hx.rounds_pack
    rw [unpack_eq_zero hzero, number_eq_zero hzero, add_zero]
    rw [hx.unpack_eq] at hrounds ⊢
    exact hrounds
  · rw [hx.unpack_eq, hy.unpack_eq]
    exact rounds_sum _ _

theorem rounds_sub (hx : Definite x) (hy : Definite y) (h : number y ≤ number x) :
    Rounds (number x - number y) (x - y).toBits.toNat := by
  show Rounds _ (UnpackedFloat.pack Format.binary64
    (UnpackedFloat.sub Format.binary64 x.toModel.unpack y.toModel.unpack)).toNat
  rcases hy.eq_zero_or_proper with hzero | hy
  · -- nothing is taken away
    rw [unpack_eq_zero hzero, number_eq_zero hzero, sub_zero]
    rcases hx.eq_zero_or_proper with hzero' | hx
    · rw [unpack_eq_zero hzero', number_eq_zero hzero']
      exact rounds_zero
    · have hrounds := hx.rounds_pack
      rw [hx.unpack_eq] at hrounds ⊢
      exact hrounds
  rcases hx.eq_zero_or_proper with hzero | hx
  · -- nothing is left of zero
    have hpos := hy.number_pos
    rw [number_eq_zero hzero] at h
    linarith
  · rw [hx.unpack_eq, hy.unpack_eq]
    exact rounds_difference h

/-! ## With infinity -/

theorem Unsigned.add (hx : Unsigned x) (hy : Unsigned y) : Unsigned (x + y) := by
  show (UnpackedFloat.pack Format.binary64
    (UnpackedFloat.add Format.binary64 x.toModel.unpack y.toModel.unpack)).toNat ≤ _
  rcases hx.eq_infinity_or_definite with hinfinite | hx
  · -- infinity stays infinity, whatever is added
    rw [unpack_eq_infinity hinfinite]
    rcases hy.eq_infinity_or_definite with hinfinite' | hy
    · rw [unpack_eq_infinity hinfinite']
      exact Nat.le_refl _
    · rcases hy.eq_zero_or_proper with hzero | hy
      · rw [unpack_eq_zero hzero]
        exact Nat.le_refl _
      · rw [hy.unpack_eq]
        exact Nat.le_refl _
  rcases hy.eq_infinity_or_definite with hinfinite | hy
  · rw [unpack_eq_infinity hinfinite]
    rcases hx.eq_zero_or_proper with hzero | hx
    · rw [unpack_eq_zero hzero]
      exact Nat.le_refl _
    · rw [hx.unpack_eq]
      exact Nat.le_refl _
  · exact (rounds_add hx hy).le_infinityBits

theorem Unsigned.mul (hx : Unsigned x) (hy : Proper y) : Unsigned (x * y) := by
  rcases hx.eq_infinity_or_definite with hinfinite | hx
  · show (UnpackedFloat.pack Format.binary64
      (UnpackedFloat.mul Format.binary64 x.toModel.unpack y.toModel.unpack)).toNat ≤ _
    rw [unpack_eq_infinity hinfinite, hy.unpack_eq]
    exact Nat.le_refl _
  · exact (rounds_mul hx hy.definite).le_infinityBits

theorem Unsigned.div (hx : Definite x) (hy : Proper y) : Unsigned (x / y) :=
  (rounds_div hx hy).le_infinityBits

/-! ## Comparison -/

/-- Larger numbers have larger bits. -/
theorem number_le_iff (hx : Unsigned x) (hy : Unsigned y) :
    number x ≤ number y ↔ x.toBits.toNat ≤ y.toBits.toNat := by
  constructor
  · exact (rounds_value hx).le (rounds_value hy)
  · intro h
    exact value_mono h hy

theorem Definite.le_iff (hx : Definite x) (hy : Definite y) : x ≤ y ↔ number x ≤ number y := by
  rw [number_le_iff hx.unsigned hy.unsigned]
  have hle : x ≤ y ↔ UnpackedFloat.le x.toModel.unpack y.toModel.unpack = true := decide_eq_true_iff
  rcases hx.eq_zero_or_proper with hzero | hx
  · -- zero is at most anything
    rw [hle, hzero, unpack_eq_zero hzero]
    refine iff_of_true ?_ (Nat.zero_le _)
    rcases hy.eq_zero_or_proper with hzero' | hy
    · rw [unpack_eq_zero hzero']
      rfl
    · rw [hy.unpack_eq]
      rfl
  rcases hy.eq_zero_or_proper with hzero | hy
  · -- nothing positive is at most zero
    rw [hle, hzero, unpack_eq_zero hzero, hx.unpack_eq]
    exact iff_of_false Bool.false_ne_true (Nat.not_le_of_lt hx.1)
  · exact hx.le_iff hy

/-- What is left when a smaller number is taken away. -/
theorem Definite.sub (hx : Definite x) (hy : Definite y) (h : number y ≤ number x) :
    Definite (x - y) :=
  Nat.lt_of_le_of_lt
    ((rounds_sub hx hy h).le (rounds_value hx.unsigned) (sub_le_self _ (number_nonneg y))) hx

/-- What is at most a number is not infinite. -/
theorem Unsigned.definite_of_le (hx : Unsigned x) (hy : Definite y) (h : x ≤ y) : Definite x := by
  rcases hx.eq_infinity_or_definite with hinfinite | hx
  · -- infinity is at most nothing that is finite
    have hle : UnpackedFloat.le x.toModel.unpack y.toModel.unpack = true := of_decide_eq_true h
    rw [unpack_eq_infinity hinfinite] at hle
    rcases hy.eq_zero_or_proper with hzero | hy
    · rw [unpack_eq_zero hzero] at hle
      cases hle
    · rw [hy.unpack_eq] at hle
      cases hle
  · exact hx

/-! ## Whole numbers -/

theorem proper_one : Proper 1 := by
  unfold Proper
  decide

/-- A long number gets 53 zeros behind the point. -/
theorem ofScientific_eq {n : Nat} (hn : 0 < n) : UnpackedFloat.ofScientific Format.binary64 n 0 =
    roundWithAccuracy Format.binary64 .positive (n <<< 53 * 1) (-53) .exact := by
  have hrange : ¬ (0 : Int) < -(2 ^ Format.binary64.exponentBits + (n.log2 : Int)) := by
    show ¬ (0 : Int) < -(2 ^ 11 + (n.log2 : Int))
    omega
  unfold UnpackedFloat.ofScientific
  rw [dif_neg (Nat.ne_of_gt hn),
    if_neg (show ¬ (0 : Int) > 2 ^ Format.binary64.exponentBits by decide),
    if_neg hrange, if_pos (Int.le_refl 0)]
  rfl

theorem rounds_ofScientific {n : Nat} (hn : 0 < n) : Rounds n (UnpackedFloat.pack Format.binary64
    (UnpackedFloat.ofScientific Format.binary64 n 0)).toNat := by
  have hmarks : Marks (.ofMantissaAndAccuracy (n <<< 53 * 1) .exact) (n / 2 ^ (-53 : Int)) := by
    have hscale : (n : Rat) / (2 : Rat) ^ (-53 : Int) = (n <<< 53 * 1 : Nat) := by
      rw [zpow_neg, div_inv_eq_mul, Nat.mul_one, Nat.shiftLeft_eq, Nat.cast_mul, Nat.cast_pow,
        Nat.cast_ofNat]
      rfl
    rw [hscale]
    exact marks_natCast _
  rw [ofScientific_eq hn]
  refine rounds_roundWithAccuracy hmarks (Or.inr ?_)
  rw [Nat.mul_one]
  exact two_pow_le_shiftLeft (Nat.ne_of_gt hn) (Nat.le_trans (by decide) (Nat.le_add_left _ _))

/-- A number of 53 bits is read as a word, and a longer one as it is. -/
theorem rounds_floatOfNat (n : Nat) : Rounds n (Float.ofNat n).toBits.toNat := by
  by_cases hshort : n < 2 ^ 53
  · have hword : n.toUInt64.toNat = n := UInt64.toNat_ofNat_of_lt (Nat.lt_trans hshort (by decide))
    have hdouble : Float.ofNat n = n.toUInt64.toFloat * 1 := dif_pos ⟨hshort, Nat.zero_le _⟩
    -- the literal is scaled by one, and that rounds to the same double
    have hrounds := rounds_toFloat n.toUInt64
    have hdefinite : Definite n.toUInt64.toFloat := toBits_toFloat_lt _
    have hproduct := rounds_mul hdefinite proper_one.definite
    rw [number_one, mul_one, ← hdouble] at hproduct
    rw [hword] at hrounds
    exact (rounds_value hdefinite.unsigned).unique hproduct ▸ hrounds
  · have hlong : Float.ofNat n = Float.ofModel (Float.Model.ofScientific n 0) :=
      dif_neg fun h => hshort h.1
    rw [hlong]
    exact rounds_ofScientific (by omega)

theorem definite_floatOfNat {n : Nat} (h : n ≤ 2 ^ 64) : Definite (Float.ofNat n) :=
  (rounds_floatOfNat n).lt_infinityBits_of_word h

/-- The double of a whole number above zero that fits a word. -/
theorem proper_of_rounds {x : Float} {n : Nat} (h : Rounds n x.toBits.toNat) (hn : 0 < n)
    (hword : n ≤ 2 ^ 64) : Proper x ∧ 1 ≤ number x ∧ number x ≤ 2 ^ (65 : Int) := by
  have hone : (1 : Rat) ≤ n := by exact_mod_cast hn
  have hlarge : (n : Rat) ≤ 2 ^ 64 := by exact_mod_cast hword
  have hlt := h.lt_infinityBits_of_word hword
  have hbits : (1 : Float).toBits.toNat ≤ x.toBits.toNat :=
    (rounds_value proper_one.definite.unsigned).le h (number_one.trans_le hone)
  refine ⟨⟨Nat.lt_of_lt_of_le proper_one.1 hbits, hlt⟩, ?_, ?_⟩
  · exact number_one.symm.trans_le (value_mono hbits (Nat.le_of_lt hlt))
  · have hnormal : (2 : Rat) ^ (-1022 : Int) ≤ n :=
      le_trans (zpow_le_one_of_nonpos₀ (by norm_num) (by decide)) hone
    have hunit := halfUnit_lt_one
    calc number x ≤ n * (1 + halfUnit) := h.value_le hnormal
      _ ≤ 2 ^ 64 * 2 := mul_le_mul hlarge (by linarith) (by linarith [halfUnit_pos]) (by positivity)
      _ = 2 ^ (65 : Int) := by norm_num

/-! ## Rounding to whole numbers -/

/-- At most a half is rounded to nothing. -/
theorem roundDiv_eq_zero_iff (n : Nat) {d : Nat} (hd : 0 < d) : roundDiv n d = 0 ↔ 2 * n ≤ d := by
  unfold roundDiv
  dsimp only
  rcases Nat.lt_or_ge n d with hless | hmore
  · -- below the unit the quotient is zero, and the half decides
    rw [Nat.div_eq_of_lt hless, Nat.mod_eq_of_lt hless]
    split
    · omega
    · split <;> simp <;> omega
  · have hquotient : 0 < n / d := Nat.div_pos hmore hd
    generalize n / d = q at *
    generalize n % d = r at *
    -- a quotient that is not zero is not rounded to it
    refine iff_of_false ?_ (by omega)
    split
    · omega
    · split
      · omega
      · split <;> omega

end Precis.Decimal
