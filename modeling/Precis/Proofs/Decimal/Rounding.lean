import Mathlib.Algebra.Order.Field.Power
import Mathlib.Algebra.Order.Field.Rat
import Mathlib.Data.Rat.Cast.Order
import Mathlib.Tactic.Linarith
import Mathlib.Tactic.NormNum
import Mathlib.Tactic.Positivity
import Mathlib.Tactic.Ring
import Precis.Decimal.Basic

/-!
# Rounding to doubles

Arithmetic on doubles finds the mantissa of an exact result and two further bits: the round bit,
which is the next digit, and the sticky bit, which tells whether anything follows. `Marks em x` says
that these three describe `x`, and `Rounds x bits` that the double with these bits is the one
nearest to `x`.

Two facts about them are all that later modules use. A larger number has no smaller double
(`Rounds.le`), since the mantissas are in order (`Marks.roundedMantissa_le`) and a full one carries
into the next power. And rounding moves the mantissa by at most a half (`Marks.near`).
-/

namespace Precis.Decimal

open Float.Model Float.Model.UnpackedFloat

/-! ## Mantissas -/

/-- The mantissa and its round bit, which stands for a half. -/
def coarse (em : ExtendedMantissa) : Rat := em.mantissa + if em.roundBit then 1 / 2 else 0

/-- The mantissa and its two further bits say where `x` lies: at the coarse value, or above it by
less than a half. -/
def Marks (em : ExtendedMantissa) (x : Rat) : Prop :=
  if em.stickyBit then coarse em < x ∧ x < coarse em + 1 / 2 else x = coarse em

variable {em em' : ExtendedMantissa} {x y : Rat}

theorem Marks.mem_coarse (h : Marks em x) : coarse em ≤ x ∧ x < coarse em + 1 / 2 := by
  unfold Marks at h
  split at h
  · exact ⟨le_of_lt h.1, h.2⟩
  · constructor <;> linarith

theorem coarse_mem (em : ExtendedMantissa) :
    (em.mantissa : Rat) ≤ coarse em ∧ coarse em ≤ em.mantissa + 1 / 2 := by
  unfold coarse
  split <;> constructor <;> linarith

theorem Marks.mem_mantissa (h : Marks em x) : (em.mantissa : Rat) ≤ x ∧ x < em.mantissa + 1 := by
  have hx := h.mem_coarse
  have hem := coarse_mem em
  constructor <;> linarith

theorem marks_natCast (n : Nat) : Marks ⟨n, false, false⟩ n := by
  simp [Marks, coarse]

/-- One bit less of the mantissa: what it loses goes to the further bits. -/
theorem Marks.shiftRightOne (h : Marks em x) : Marks em.shiftRightOne (x / 2) := by
  have hcoarse : coarse em.shiftRightOne = em.mantissa / 2 := by
    have hsplit : (em.mantissa : Rat) = 2 * (em.mantissa / 2 : Nat) + (em.mantissa % 2 : Nat) := by
      exact_mod_cast (Nat.div_add_mod em.mantissa 2).symm
    unfold coarse ExtendedMantissa.shiftRightOne
    dsimp only
    rcases Nat.mod_two_eq_zero_or_one em.mantissa with hbit | hbit
    · rw [hbit] at hsplit ⊢
      rw [hsplit]
      simp
    · rw [hbit] at hsplit ⊢
      rw [hsplit]
      simp
      ring
  have hx := h.mem_mantissa
  unfold Marks
  rw [hcoarse]
  by_cases hmore : (em.roundBit || em.stickyBit) = true
  · -- one of the further bits is set, so `x` is not the mantissa itself
    rw [if_pos (by exact hmore)]
    have hne : x ≠ em.mantissa := by
      intro heq
      have hem := h
      unfold Marks coarse at hem
      rcases Bool.or_eq_true _ _ ▸ hmore with hround | hsticky
      · rw [hround] at hem
        split at hem
        · simp at hem
          linarith
        · simp at hem
          linarith
      · rw [if_pos hsticky] at hem
        split at hem <;> linarith
    have hlt := lt_of_le_of_ne hx.1 (Ne.symm hne)
    constructor <;> linarith
  · -- no further bit is set, so `x` is the mantissa itself
    rw [if_neg (by exact hmore)]
    rw [Bool.not_eq_true, Bool.or_eq_false_iff] at hmore
    unfold Marks coarse at h
    rw [hmore.1, hmore.2] at h
    simp at h
    rw [h]

theorem Marks.shiftRight (h : Marks em x) (n : Nat) : Marks (em >>> n) (x / 2 ^ n) := by
  show Marks (n.repeat ExtendedMantissa.shiftRightOne em) _
  induction n with
  | zero => simpa [Nat.repeat] using h
  | succ n ih =>
    rw [Nat.repeat, pow_succ, ← div_div]
    exact ih.shiftRightOne

/-- The mantissa goes up when the rest is more than a half, or a half and the mantissa is odd. -/
theorem roundedMantissa_eq (em : ExtendedMantissa) : em.roundedMantissa =
    em.mantissa + if em.roundBit ∧ (em.stickyBit ∨ em.mantissa % 2 = 1) then 1 else 0 := by
  obtain ⟨m, round, sticky⟩ := em
  cases round <;> cases sticky <;>
    simp [ExtendedMantissa.roundedMantissa, ExtendedMantissa.accuracy, Accuracy.roundToNearestEven]
  split <;> omega

/-- Rounding keeps the order. -/
theorem Marks.roundedMantissa_le (hx : Marks em x) (hy : Marks em' y) (h : x ≤ y) :
    em.roundedMantissa ≤ em'.roundedMantissa := by
  have hxm := hx.mem_mantissa
  have hym := hy.mem_mantissa
  have hle : em.mantissa ≤ em'.mantissa := by
    have hlt : (em.mantissa : Rat) < em'.mantissa + 1 := by linarith
    have hnat : em.mantissa < em'.mantissa + 1 := by exact_mod_cast hlt
    omega
  rw [roundedMantissa_eq, roundedMantissa_eq]
  rcases Nat.lt_or_eq_of_le hle with hlt | heq
  · -- the larger mantissa rounds to at least the smaller one and one more
    split <;> split <;> omega
  rw [heq]
  split
  · rename_i hup
    -- `x` is at the half or above it, and so is `y`
    have hxc := hx.mem_coarse
    have hyc := hy.mem_coarse
    unfold coarse at hxc hyc
    rw [if_pos hup.1] at hxc
    have hround : em'.roundBit = true := by
      by_contra hnone
      rw [if_neg hnone] at hyc
      rw [heq] at hxc
      linarith
    have hup' : em'.stickyBit = true ∨ em'.mantissa % 2 = 1 := by
      by_contra hnone
      rw [not_or] at hnone
      unfold Marks coarse at hx hy
      rw [if_neg hnone.1, if_pos hround] at hy
      rw [if_pos hup.1] at hx
      rcases hup.2 with hsticky | hodd
      · rw [if_pos hsticky, heq] at hx
        linarith
      · exact hnone.2 (heq ▸ hodd)
    rw [if_pos ⟨hround, hup'⟩]
  · omega

/-- Rounding moves a number by at most a half. -/
theorem Marks.near (h : Marks em x) :
    (em.roundedMantissa : Rat) ≤ x + 1 / 2 ∧ x ≤ em.roundedMantissa + 1 / 2 := by
  have hx := h.mem_coarse
  rw [roundedMantissa_eq]
  unfold coarse at hx
  by_cases hround : em.roundBit = true
  · -- the half or more
    rw [if_pos hround] at hx
    split
    · push_cast
      constructor <;> linarith
    · rename_i hdown
      -- the half itself, and the mantissa is even
      unfold Marks coarse at h
      have hsticky : ¬ em.stickyBit = true := fun hsticky => hdown ⟨hround, Or.inl hsticky⟩
      rw [if_neg hsticky, if_pos hround] at h
      push_cast
      constructor <;> linarith
  · rw [if_neg hround] at hx
    -- less than the half rounds down
    rw [if_neg (fun hup => hround hup.1)]
    push_cast
    constructor <;> linarith

@[simp] theorem roundedMantissa_exact (n : Nat) :
    (ExtendedMantissa.mk n false false).roundedMantissa = n := rfl

theorem Marks.roundedMantissa_le_of_le (h : Marks em x) {n : Nat} (hx : x ≤ n) :
    em.roundedMantissa ≤ n :=
  h.roundedMantissa_le (marks_natCast n) hx

theorem Marks.le_roundedMantissa_of_le (h : Marks em x) {n : Nat} (hx : (n : Rat) ≤ x) :
    n ≤ em.roundedMantissa :=
  (marks_natCast n).roundedMantissa_le h hx

/-- A full mantissa is at most a power of two, which has one bit more. -/
theorem Marks.rounded_le {t : Int} (h : Marks em (x / 2 ^ t)) (hx : x ≤ 2 ^ (53 + t)) :
    em.roundedMantissa ≤ 2 ^ 53 := by
  refine h.roundedMantissa_le_of_le ?_
  rw [div_le_iff₀ (by positivity), Nat.cast_pow, Nat.cast_ofNat, ← zpow_natCast,
    ← zpow_add₀ (by norm_num)]
  exact hx

theorem Marks.le_rounded {t : Int} (h : Marks em (x / 2 ^ t)) (hx : 2 ^ (52 + t) ≤ x) :
    2 ^ 52 ≤ em.roundedMantissa := by
  refine h.le_roundedMantissa_of_le ?_
  rw [le_div_iff₀ (by positivity), Nat.cast_pow, Nat.cast_ofNat, ← zpow_natCast,
    ← zpow_add₀ (by norm_num)]
  exact hx

/-! ## The nearest double -/

/-- The bits of the double nearest to `x`: `x` is cut to 53 bits, or at the least power that there
is, and the mantissa is rounded. Beyond the largest double is infinity. -/
def Rounds (x : Rat) (bits : Nat) : Prop :=
  ∃ (em : ExtendedMantissa) (t : Int), -1074 ≤ t ∧ x < 2 ^ (53 + t) ∧
    (t = -1074 ∨ 2 ^ (52 + t) ≤ x) ∧
    Marks em (x / 2 ^ t) ∧ bits = min ((t + 1074).toNat * 2 ^ 52 + em.roundedMantissa) infinityBits

theorem Rounds.le_infinityBits {n : Nat} (h : Rounds x n) : n ≤ infinityBits := by
  obtain ⟨em, t, -, -, -, -, rfl⟩ := h
  exact Nat.min_le_right _ _

/-- Of two numbers the larger one has the larger double. -/
theorem Rounds.le {m n : Nat} (hx : Rounds x m) (hy : Rounds y n) (h : x ≤ y) : m ≤ n := by
  obtain ⟨em, t, ht, hlt, hge, hem, rfl⟩ := hx
  obtain ⟨em', t', ht', hlt', hge', hem', rfl⟩ := hy
  have hpos : (0 : Rat) < 2 ^ t := by positivity
  have hle : t ≤ t' := by
    by_contra hgt
    have hx : (2 : Rat) ^ (52 + t) ≤ x := by
      rcases hge with hge | hge
      · omega
      · exact hge
    have hpow : (2 : Rat) ^ (53 + t') ≤ 2 ^ (52 + t) :=
      zpow_le_zpow_right₀ (by norm_num) (by omega)
    linarith
  refine min_le_min_right _ ?_
  rcases hle.lt_or_eq with hless | rfl
  · -- a full mantissa at the smaller power is at most the least one at the larger power
    have hm := hem.rounded_le (le_of_lt hlt)
    have hm' : 2 ^ 52 ≤ em'.roundedMantissa := by
      rcases hge' with hleast | hge'
      · omega
      · exact hem'.le_rounded hge'
    omega
  · have hm := hem.roundedMantissa_le hem' (div_le_div_of_nonneg_right h (le_of_lt hpos))
    omega

/-- A number has one nearest double. -/
theorem Rounds.unique {m n : Nat} (hm : Rounds x m) (hn : Rounds x n) : m = n :=
  Nat.le_antisymm (hm.le hn (le_refl x)) (hn.le hm (le_refl x))

end Precis.Decimal
