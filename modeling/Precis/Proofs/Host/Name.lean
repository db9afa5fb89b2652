import Precis.Host.Basic
import Precis.Proofs.Text.Ascii

/-!
# Names

Hosts that are plain names: labels of letters and digits with dots between them (`PlainLabels`).
Such a name is cut into just these labels (`PlainLabels.labels_eq`), capitals make no difference to
what it is (`PlainLabels.small`), and one whose last label starts with a letter is no number
(`PlainLabels.not_endsInNumber`).

What is said of the characters of a name is looked up among the 128 of ASCII (`of_inName`).
-/

namespace Precis.Host

open Text

/-! ## Characters -/

/-- A letter, a digit or a dot. -/
def inName (c : Char) : Bool := c.isAlphanum || c == '.'

/-- An ASCII character that is no control character. -/
def isPrintable (c : Char) : Bool := 0x20 ≤ c.toNat && c.toNat ≤ 0x7E

theorem toNat_lt_of_inName {c : Char} (h : inName c = true) : c.toNat < 128 := by
  rw [inName, Bool.or_eq_true, beq_iff_eq] at h
  rcases h with h | rfl
  · exact toNat_lt_of_isAlphanum h
  · decide

/-- To know something of the characters of names it is enough to look at each of them. -/
theorem of_inName {p : Char → Prop}
    (hall : ∀ n < 128, inName (Char.ofNat n) = true → p (Char.ofNat n)) {c : Char}
    (h : inName c = true) : p c :=
  of_ascii (p := fun c => inName c = true → p c) hall (toNat_lt_of_inName h) h

theorem inName_of_toLower {c : Char} (h : inName c.toLower = true) : inName c = true := by
  unfold Char.toLower at h
  split at h
  · -- a capital letter
    rename_i hupper
    have hletter : c.isUpper = true := decide_eq_true hupper
    show ((c.isUpper || c.isLower) || c.isDigit || c == '.') = true
    rw [hletter]
    rfl
  · exact h

/-! ## Labels -/

theorem cutAt_of_not {p : Char → Bool} {s : List Char} (h : ∀ c ∈ s, p c = false) :
    cutAt p s = [s] := by
  induction s with
  | nil => rfl
  | cons c rest ih =>
    rw [List.forall_mem_cons] at h
    rw [cutAt, h.1, ih h.2]
    rfl

/-- A list is cut before what follows the first separator. -/
theorem cutAt_append {p : Char → Bool} {s rest : List Char} {c : Char} (h : ∀ c ∈ s, p c = false)
    (hc : p c = true) : cutAt p (s ++ c :: rest) = s :: cutAt p rest := by
  induction s with
  | nil =>
    rw [List.nil_append, cutAt, hc]
    rfl
  | cons a s ih =>
    rw [List.forall_mem_cons] at h
    rw [List.cons_append, cutAt, h.1, ih h.2]
    rfl

theorem joinLabels_cons {l : List Char} {ls : List (List Char)} (h : ls ≠ []) :
    joinLabels (l :: ls) = l ++ '.' :: joinLabels ls := by
  cases ls with
  | nil => exact absurd rfl h
  | cons m ls => simp [joinLabels, List.intercalate]

theorem labels_joinLabels {ls : List (List Char)} (hne : ls ≠ [])
    (h : ∀ l ∈ ls, ∀ c ∈ l, (c == '.') = false) : labels (joinLabels ls) = ls := by
  induction ls with
  | nil => exact absurd rfl hne
  | cons l ls ih =>
    rw [List.forall_mem_cons] at h
    -- no dot stands after the last label
    by_cases hlast : ls = []
    · subst hlast
      have hsingle : joinLabels [l] = l := by simp [joinLabels, List.intercalate]
      rw [hsingle]
      exact cutAt_of_not h.1
    · rw [joinLabels_cons hlast, labels, cutAt_append h.1 rfl]
      exact congrArg (l :: ·) (ih hlast h.2)

theorem map_joinLabels {f : Char → Char} (hdot : f '.' = '.') (ls : List (List Char)) :
    (joinLabels ls).map f = joinLabels (ls.map (·.map f)) := by
  induction ls with
  | nil => rfl
  | cons l ls ih =>
    by_cases hlast : ls = []
    · subst hlast
      simp [joinLabels, List.intercalate]
    · have hmap : ls.map (·.map f) ≠ [] := by simpa using hlast
      rw [List.map_cons, joinLabels_cons hlast, joinLabels_cons hmap, List.map_append,
        List.map_cons, hdot, ih]

/-! ## Names -/

/-- Labels of letters and digits, two at least, of which the last one starts with a letter. -/
structure PlainLabels (ls : List (List Char)) : Prop where
  two_le : 2 ≤ ls.length
  plain : ∀ l ∈ ls, l ≠ [] ∧ ∀ c ∈ l, c.isAlphanum = true
  lettered : ∃ last c, ls.getLast? = some last ∧ last.head? = some c ∧ c.isAlpha = true

/-- What starts with a letter is no number: a letter is no decimal digit, and no other base is tried
without a zero in front. -/
theorem number?_of_isAlpha {c : Char} {rest : List Char} (h : c.isAlpha = true) :
    Ipv4.number? (c :: rest) = none := by
  have hten : Ipv4.number? (c :: rest) = Ipv4.digitsIn 10 (c :: rest) := by
    unfold Ipv4.number?
    -- a prefix for another base starts with the digit zero
    split
    · rename_i heq
      cases heq
    · rename_i heq
      cases heq
      cases h
    · rfl
  have hvalue : (hexDigit? c).all (10 ≤ ·) = true :=
    of_isAlpha (p := fun c => (hexDigit? c).all (10 ≤ ·) = true) (by decide) h
  rw [hten, Ipv4.digitsIn, List.foldlM_cons]
  cases hhex : hexDigit? c with
  | none => rfl
  | some d =>
    -- a hexadecimal letter is no decimal digit
    rw [hhex] at hvalue
    have hlarge : ¬ d < 10 := Nat.not_lt_of_le (of_decide_eq_true hvalue)
    rw [Option.bind_some, if_neg hlarge]
    rfl

namespace PlainLabels

variable {ls : List (List Char)}

/-- Labels in small letters are labels too. -/
theorem small (h : PlainLabels ls) : PlainLabels (ls.map (·.map Char.toLower)) := by
  refine ⟨?_, ?_, ?_⟩
  · rw [List.length_map]
    exact h.two_le
  · intro l hl
    obtain ⟨m, hm, rfl⟩ := List.mem_map.1 hl
    obtain ⟨hne, hplain⟩ := h.plain m hm
    refine ⟨by simpa using hne, ?_⟩
    intro c hc
    obtain ⟨a, ha, rfl⟩ := List.mem_map.1 hc
    exact isAlphanum_toLower (hplain a ha)
  · obtain ⟨last, c, hlast, hhead, hletter⟩ := h.lettered
    refine ⟨last.map Char.toLower, c.toLower, ?_, ?_, isAlpha_toLower hletter⟩
    · rw [List.getLast?_map, hlast]
      rfl
    · rw [List.head?_map, hhead]
      rfl

/-- One more label in front. -/
theorem cons (h : PlainLabels ls) {l : List Char} (hne : l ≠ [])
    (hplain : ∀ c ∈ l, c.isAlphanum = true) : PlainLabels (l :: ls) := by
  refine ⟨?_, ?_, ?_⟩
  · have htwo := h.two_le
    rw [List.length_cons]
    omega
  · rw [List.forall_mem_cons]
    exact ⟨⟨hne, hplain⟩, h.plain⟩
  · obtain ⟨last, c, hlast, hrest⟩ := h.lettered
    refine ⟨last, c, ?_, hrest⟩
    rw [List.getLast?_cons, hlast]
    rfl

theorem ne_nil (h : PlainLabels ls) : ls ≠ [] := by
  rintro rfl
  exact absurd h.two_le (by decide)

/-- The name of labels has letters, digits and dots only. -/
theorem inName_of_mem (h : PlainLabels ls) : ∀ c ∈ joinLabels ls, inName c = true := by
  have hplain : ∀ l ∈ ls, ∀ c ∈ l, c.isAlphanum = true := fun l hl => (h.plain l hl).2
  clear h
  induction ls with
  | nil =>
    intro c hc
    cases hc
  | cons l ls ih =>
    rw [List.forall_mem_cons] at hplain
    have hfirst : ∀ c ∈ l, inName c = true := by
      intro c hc
      rw [inName, hplain.1 c hc]
      rfl
    by_cases hlast : ls = []
    · subst hlast
      rw [show joinLabels [l] = l by simp [joinLabels, List.intercalate]]
      exact hfirst
    · rw [joinLabels_cons hlast, List.forall_mem_append, List.forall_mem_cons]
      exact ⟨hfirst, rfl, ih hplain.2⟩

theorem labels_eq (h : PlainLabels ls) : labels (joinLabels ls) = ls := by
  apply labels_joinLabels h.ne_nil
  intro l hl c hc
  rw [beq_eq_false_iff_ne]
  rintro rfl
  exact absurd ((h.plain l hl).2 _ hc) (by decide)

/-- A name of two labels has a dot. -/
theorem dot_mem (h : PlainLabels ls) : '.' ∈ joinLabels ls := by
  cases ls with
  | nil => exact absurd rfl h.ne_nil
  | cons l ls =>
    have hmore : ls ≠ [] := by
      rintro rfl
      have htwo := h.two_le
      rw [List.length_singleton] at htwo
      exact absurd htwo (by decide)
    rw [joinLabels_cons hmore]
    exact List.mem_append_right _ List.mem_cons_self

/-- A name whose last label starts with a letter is no number. -/
theorem not_endsInNumber (h : PlainLabels ls) : Ipv4.endsInNumber (joinLabels ls) = false := by
  obtain ⟨last, c, hlast, hhead, hletter⟩ := h.lettered
  have hne := (h.plain last (List.mem_of_getLast? hlast)).1
  -- the last part is not empty, so none is left out
  have hparts : Ipv4.partsOf (joinLabels ls) = ls := by
    rw [Ipv4.partsOf, h.labels_eq, hlast]
    have hfull : (some last = some ([] : List Char)) = False := by simpa using hne
    simp only [hfull, decide_false, Bool.and_false, Bool.false_eq_true, if_false]
  rw [Ipv4.endsInNumber, hparts, hlast]
  dsimp only
  cases last with
  | nil => exact absurd rfl hne
  | cons a rest =>
    cases hhead
    have hdigit : c.isDigit = false :=
      of_isAlpha (p := fun c => c.isDigit = false) (by decide) hletter
    rw [number?_of_isAlpha hletter, List.all_cons, hdigit]
    rfl

end PlainLabels

end Precis.Host
