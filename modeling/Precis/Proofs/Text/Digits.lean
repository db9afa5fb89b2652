import Precis.Text.Blank
import Precis.Text.Numeral

/-!
# Digits in a text

How many digits a number has, and where a reader stops that takes as many of them as there are:
`takeWhile_digits` for digits in front of something else. Padding adds zeros on the left, which
change neither the number nor that all characters are digits.
-/

namespace Precis.Text

/-- Does not go on with a digit. -/
def NoDigit (s : List Char) : Prop := ∀ c ∈ s.head?, c.isDigit = false

theorem isDigit_of_mem_paddedDigits (w n : Nat) : ∀ c ∈ paddedDigits w n, c.isDigit = true := by
  intro c hc
  rcases List.mem_append.1 hc with hc | hc
  · rw [List.eq_of_mem_replicate hc]
    rfl
  · exact isDigit_of_mem_decimalDigits n c hc

theorem ofDigits_replicate_append (k : Nat) (s : List Char) :
    ofDigits (List.replicate k '0' ++ s) = ofDigits s := by
  induction k with
  | zero => rfl
  | succ k ih =>
    rw [List.replicate_succ, List.cons_append, ← ih]
    rfl

theorem ofDigits_paddedDigits (w n : Nat) : ofDigits (paddedDigits w n) = n := by
  rw [paddedDigits, ofDigits_replicate_append, ofDigits_decimalDigits]

theorem length_decimalDigits_le {n k : Nat} (hn : n < Nat.pow 10 k) (hk : 0 < k) :
    (decimalDigits n).length ≤ k := by
  induction k generalizing n with
  | zero => omega
  | succ k ih =>
    rw [decimalDigits]
    split
    · exact hk
    · rename_i hten
      rw [List.length_append, List.length_singleton]
      have hdiv : n / 10 < Nat.pow 10 k := by
        have hpow : Nat.pow 10 (k + 1) = Nat.pow 10 k * 10 := rfl
        omega
      have hpos : 0 < k := by
        rcases Nat.eq_zero_or_pos k with rfl | hpos
        · exact absurd hn (by simp only [Nat.pow_eq, Nat.zero_add, Nat.pow_one]; omega)
        · exact hpos
      have h := ih hdiv hpos
      omega

theorem length_paddedDigits {w n : Nat} (hn : n < Nat.pow 10 w) (hw : 0 < w) :
    (paddedDigits w n).length = w := by
  have h := length_decimalDigits_le hn hw
  simp only [paddedDigits, List.length_append, List.length_replicate]
  omega

/-- A number other than zero does not start with the digit zero. -/
theorem decimalDigits_eq_zero_cons {n : Nat} {ds : List Char} (h : decimalDigits n = '0' :: ds) :
    n = 0 ∧ ds = [] := by
  induction n using Nat.strongRecOn generalizing ds with
  | ind n ih =>
    rw [decimalDigits] at h
    split at h
    · rename_i hlt
      obtain ⟨hc, hds⟩ := List.cons.inj h
      have hval := digitValue_digitChar hlt
      rw [hc] at hval
      exact ⟨hval.symm, hds.symm⟩
    · rename_i hten
      -- the digits before the last one are those of `n / 10`, which is not zero
      cases hq : decimalDigits (n / 10) with
      | nil => exact absurd hq (decimalDigits_ne_nil _)
      | cons d rest =>
        rw [hq, List.cons_append] at h
        obtain ⟨hd, _⟩ := List.cons.inj h
        rw [hd] at hq
        have hzero := (ih (n / 10) (by omega) hq).1
        omega

theorem takeWhile_digits {ds rest : List Char} (hds : ∀ c ∈ ds, c.isDigit = true)
    (hrest : NoDigit rest) : (ds ++ rest).takeWhile Char.isDigit = ds := by
  rw [List.takeWhile_append_of_pos hds]
  cases rest with
  | nil => rw [List.takeWhile_nil, List.append_nil]
  | cons c rest => rw [List.takeWhile_cons_of_neg (by simp [hrest c rfl]), List.append_nil]

theorem dropWhile_digits {ds rest : List Char} (hds : ∀ c ∈ ds, c.isDigit = true)
    (hrest : NoDigit rest) : (ds ++ rest).dropWhile Char.isDigit = rest := by
  rw [List.dropWhile_append_of_pos hds]
  cases rest with
  | nil => rfl
  | cons c rest => rw [List.dropWhile_cons_of_neg (by simp [hrest c rfl])]

/-- No digit is blank. -/
theorem isBlank_of_isDigit {c : Char} (h : c.isDigit = true) : isBlank c = false := by
  simp only [Char.isDigit, Bool.and_eq_true, decide_eq_true_eq, UInt32.le_iff_toNat_le] at h
  have hlow : (48 : Nat) ≤ c.toNat := h.1
  have hhigh : c.toNat ≤ 57 := h.2
  simp only [isBlank, Bool.or_eq_false_iff, Bool.and_eq_false_imp, decide_eq_true_eq,
    decide_eq_false_iff_not]
  omega

theorem trimStart_cons {c : Char} {s : List Char} (h : isBlank c = false) :
    trimStart (c :: s) = c :: s := by
  rw [trimStart, List.dropWhile_cons_of_neg (by simp [h])]

/-- Nothing is trimmed in front of digits. -/
theorem trimStart_digits {ds : List Char} (hds : ∀ c ∈ ds, c.isDigit = true) (hne : ds ≠ [])
    (rest : List Char) : trimStart (ds ++ rest) = ds ++ rest := by
  cases ds with
  | nil => exact absurd rfl hne
  | cons c ds => exact trimStart_cons (isBlank_of_isDigit (hds c List.mem_cons_self))

end Precis.Text
