/-!
# ASCII characters

What is to hold of every ASCII character, or of every letter, is looked up character by character
(`of_ascii`, `of_isAlpha`). Characters with one small letter are the same or both letters
(`eq_or_isAlpha`): so whatever cannot tell letters apart cannot tell capitals from small letters.
-/

namespace Precis.Text

/-- What holds of the first 128 characters holds of every ASCII character. -/
theorem of_ascii {p : Char → Prop} (hall : ∀ n < 128, p (Char.ofNat n)) {c : Char}
    (h : c.toNat < 128) : p c := by
  have hc := hall c.toNat h
  rw [Char.ofNat_toNat] at hc
  exact hc

theorem toNat_lt_of_isAlphanum {c : Char} (h : c.isAlphanum = true) : c.toNat < 128 := by
  have hval : c.toNat = c.val.toNat := rfl
  unfold Char.isAlphanum Char.isAlpha Char.isUpper Char.isLower Char.isDigit at h
  simp only [Bool.or_eq_true, Bool.and_eq_true, decide_eq_true_eq, ge_iff_le,
    UInt32.le_iff_toNat_le, ← hval] at h
  have hz : c.toNat ≤ 122 := by
    rcases h with (⟨_, h⟩ | ⟨_, h⟩) | ⟨_, h⟩
    · exact Nat.le_trans h (by decide)
    · exact Nat.le_trans h (by decide)
    · exact Nat.le_trans h (by decide)
  omega

theorem isAlphanum_of_isAlpha {c : Char} (h : c.isAlpha = true) : c.isAlphanum = true := by
  rw [Char.isAlphanum, h]
  rfl

/-- The same of letters. -/
theorem of_isAlpha {p : Char → Prop}
    (hall : ∀ n < 128, (Char.ofNat n).isAlpha = true → p (Char.ofNat n)) {c : Char}
    (h : c.isAlpha = true) : p c :=
  of_ascii (p := fun c => c.isAlpha = true → p c) hall
    (toNat_lt_of_isAlphanum (isAlphanum_of_isAlpha h)) h

/-- Capitals and small letters are alike in what is a letter and what a digit. -/
theorem isAlphanum_toLower {c : Char} (h : c.isAlphanum = true) : c.toLower.isAlphanum = true :=
  of_ascii (p := fun c => c.isAlphanum = true → c.toLower.isAlphanum = true) (by decide)
    (toNat_lt_of_isAlphanum h) h

theorem isAlpha_toLower {c : Char} (h : c.isAlpha = true) : c.toLower.isAlpha = true :=
  of_isAlpha (p := fun c => c.toLower.isAlpha = true) (by decide) h

/-- Only capitals have another small letter. -/
theorem toLower_of_not_isUpper {c : Char} (h : c.isUpper = false) : c.toLower = c := by
  unfold Char.toLower
  rw [dif_neg]
  unfold Char.isUpper at h
  simpa using h

theorem isAlpha_of_isUpper {c : Char} (h : c.isUpper = true) : c.isAlpha = true := by
  unfold Char.isAlpha
  rw [h]
  rfl

/-- Small letters are no capitals. -/
theorem isUpper_toLower (c : Char) : c.toLower.isUpper = false := by
  cases hupper : c.isUpper with
  | true =>
    exact of_isAlpha (p := fun c => c.toLower.isUpper = false) (by decide)
      (isAlpha_of_isUpper hupper)
  | false =>
    rw [toLower_of_not_isUpper hupper]
    exact hupper

theorem toLower_of_not_isAlpha {c : Char} (h : ¬ c.isAlpha = true) : c.toLower = c := by
  apply toLower_of_not_isUpper
  rw [Bool.eq_false_iff]
  intro hupper
  exact h (isAlpha_of_isUpper hupper)

/-- Characters that differ in case alone are letters. -/
theorem eq_or_isAlpha {a b : Char} (h : a.toLower = b.toLower) :
    a = b ∨ a.isAlpha = true ∧ b.isAlpha = true := by
  by_cases ha : a.isAlpha = true
  · by_cases hb : b.isAlpha = true
    · exact Or.inr ⟨ha, hb⟩
    · rw [toLower_of_not_isAlpha hb] at h
      exact absurd (h ▸ isAlpha_toLower ha) hb
  · by_cases hb : b.isAlpha = true
    · rw [toLower_of_not_isAlpha ha] at h
      exact absurd (h ▸ isAlpha_toLower hb) ha
    · rw [toLower_of_not_isAlpha ha, toLower_of_not_isAlpha hb] at h
      exact Or.inl h

end Precis.Text
