import Mathlib.Data.List.Forall2
import Precis.Proofs.Text.Pattern

/-!
# Patterns of words

What the patterns match that are put together from words: words one after the other, alternatives,
what is optional, and words that stand alone. Each is read as a statement on the characters that are
matched, which does not speak of patterns any more (`Spells`, `Joined`, `StandsAlone`).
-/

namespace Precis.Text

namespace Pattern

variable {p q : Pattern} {u m v : List Char}

/-! ## Parts of a pattern -/

theorem matches_char_iff {p : Char} : (char p).Matches u m v ↔ ∃ c, m = [c] ∧ IsCaseOf p c := by
  constructor
  · intro h
    cases h with
    | char h => exact ⟨_, rfl, h⟩
  · rintro ⟨c, rfl, h⟩
    exact .char h

theorem matches_digit_iff : digit.Matches u m v ↔ ∃ c, m = [c] ∧ isDecimalDigit c = true := by
  constructor
  · intro h
    cases h with
    | digit h => exact ⟨_, rfl, h⟩
  · rintro ⟨c, rfl, h⟩
    exact .digit h

theorem matches_gap_iff : gap.Matches u m v ↔ '\n' ∉ m := by
  constructor
  · intro h
    cases h with
    | gap h => exact h
  · exact .gap

theorem matches_boundary_iff : boundary.Matches u m v ↔ m = [] ∧ IsEdge u v := by
  constructor
  · intro h
    cases h with
    | boundary h => exact ⟨rfl, h⟩
  · rintro ⟨rfl, h⟩
    exact .boundary h

theorem matches_nothing_iff : nothing.Matches u m v ↔ m = [] := by
  constructor
  · intro h
    cases h with
    | nothing => rfl
  · rintro rfl
    exact .nothing

theorem matches_seq_iff : (seq p q).Matches u m v ↔
    ∃ x y, m = x ++ y ∧ p.Matches u x (y ++ v) ∧ q.Matches (u ++ x) y v := by
  constructor
  · intro h
    cases h with
    | seq hp hq => exact ⟨_, _, rfl, hp, hq⟩
  · rintro ⟨x, y, rfl, hp, hq⟩
    exact .seq hp hq

theorem matches_alt_iff : (alt p q).Matches u m v ↔ p.Matches u m v ∨ q.Matches u m v := by
  constructor
  · intro h
    cases h with
    | left h => exact Or.inl h
    | right h => exact Or.inr h
  · rintro (h | h)
    · exact .left h
    · exact .right h

theorem matches_optional_iff : (optional p).Matches u m v ↔ p.Matches u m v ∨ m = [] := by
  rw [optional, matches_alt_iff, matches_nothing_iff]

theorem matches_optional_any_iff :
    (optional any).Matches u m v ↔ m.length ≤ 1 ∧ '\n' ∉ m := by
  rw [matches_optional_iff]
  constructor
  · rintro (h | rfl)
    · cases h with
      | any h => exact ⟨Nat.le_refl 1, by simpa using Ne.symm h⟩
    · exact ⟨Nat.zero_le 1, by simp⟩
  · rintro ⟨hlen, hline⟩
    -- no character, or one that ends no line
    match m, hlen with
    | [], _ => exact Or.inr rfl
    | [c], _ => exact Or.inl (.any (by simpa [eq_comm] using hline))

theorem matches_oneOf_cons_iff {ps : List Pattern} :
    (oneOf (p :: q :: ps)).Matches u m v ↔ p.Matches u m v ∨ (oneOf (q :: ps)).Matches u m v :=
  matches_alt_iff

theorem matches_oneOf_single_iff : (oneOf [p]).Matches u m v ↔ p.Matches u m v := Iff.rfl

theorem matches_inOrder_cons_iff {ps : List Pattern} : (inOrder (p :: ps)).Matches u m v ↔
    ∃ x y, m = x ++ y ∧ p.Matches u x (y ++ v) ∧ (inOrder ps).Matches (u ++ x) y v := by
  cases ps with
  | cons q ps => exact matches_seq_iff
  | nil =>
    show p.Matches u m v ↔ ∃ x y, m = x ++ y ∧ p.Matches u x (y ++ v) ∧ nothing.Matches (u ++ x) y v
    constructor
    · intro h
      exact ⟨m, [], (List.append_nil m).symm, h, .nothing⟩
    · -- nothing is left for the parts that are not there
      rintro ⟨x, y, rfl, h, hy⟩
      rw [matches_nothing_iff.1 hy] at h ⊢
      rwa [List.append_nil]

theorem matches_inOrder_append_iff (ps qs : List Pattern) : (inOrder (ps ++ qs)).Matches u m v ↔
    ∃ x y, m = x ++ y ∧ (inOrder ps).Matches u x (y ++ v) ∧ (inOrder qs).Matches (u ++ x) y v := by
  induction ps generalizing u m with
  | nil =>
    -- without parts in front the others match all of it
    constructor
    · intro h
      exact ⟨[], m, rfl, .nothing, by rwa [List.append_nil]⟩
    · rintro ⟨x, y, rfl, hx, h⟩
      rw [matches_nothing_iff.1 hx, List.append_nil] at h
      rwa [matches_nothing_iff.1 hx]
  | cons p ps ih =>
    rw [List.cons_append, matches_inOrder_cons_iff]
    constructor
    · rintro ⟨x, yz, rfl, hp, h⟩
      obtain ⟨y, z, rfl, hps, hqs⟩ := ih.1 h
      refine ⟨x ++ y, z, (List.append_assoc x y z).symm, ?_, by rwa [← List.append_assoc]⟩
      exact matches_inOrder_cons_iff.2 ⟨x, y, rfl, by rwa [← List.append_assoc], hps⟩
    · rintro ⟨xy, z, rfl, h, hqs⟩
      obtain ⟨x, y, rfl, hp, hps⟩ := matches_inOrder_cons_iff.1 h
      refine ⟨x, y ++ z, List.append_assoc x y z, by rwa [List.append_assoc], ?_⟩
      exact ih.2 ⟨y, z, rfl, hps, by rwa [List.append_assoc]⟩

/-- What is optional is there or not. -/
theorem matches_inOrder_optional_iff {ps : List Pattern} :
    (inOrder (q :: optional p :: ps)).Matches u m v ↔
      (inOrder (q :: p :: ps)).Matches u m v ∨ (inOrder (q :: ps)).Matches u m v := by
  have hrest : ∀ {u m : List Char}, (inOrder (optional p :: ps)).Matches u m v ↔
      (inOrder (p :: ps)).Matches u m v ∨ (inOrder ps).Matches u m v := by
    intro u m
    rw [matches_inOrder_cons_iff, matches_inOrder_cons_iff]
    simp only [matches_optional_iff, or_and_right, and_or_left, exists_or]
    apply or_congr Iff.rfl
    -- the part that is not there matches nothing
    simp
  rw [matches_inOrder_cons_iff, matches_inOrder_cons_iff, matches_inOrder_cons_iff]
  simp only [hrest, and_or_left, exists_or]

theorem matches_seq_alt_iff {r : Pattern} : (seq p (alt q r)).Matches u m v ↔
    (seq p q).Matches u m v ∨ (seq p r).Matches u m v := by
  rw [matches_seq_iff, matches_seq_iff, matches_seq_iff]
  simp only [matches_alt_iff, and_or_left, exists_or]

/-- A word may be matched in two parts. -/
theorem matches_word_append_iff {a b : String} :
    (word (a ++ b)).Matches u m v ↔ (seq (word a) (word b)).Matches u m v := by
  rw [word, String.toList_append, List.map_append, matches_inOrder_append_iff, matches_seq_iff]
  rfl

theorem matches_inOrder_word_append_iff {a b : String} {ps : List Pattern} :
    (inOrder (word (a ++ b) :: ps)).Matches u m v ↔
    (inOrder (word a :: word b :: ps)).Matches u m v := by
  have hparts := matches_inOrder_append_iff [word a, word b] ps (u := u) (m := m) (v := v)
  rw [List.cons_append, List.singleton_append] at hparts
  rw [hparts, matches_inOrder_cons_iff]
  simp only [matches_word_append_iff]
  rfl

/-! ## Words -/

/-- The word in any case. -/
def Spells (w : String) (m : List Char) : Prop := List.Forall₂ IsCaseOf w.toList m

/-- Both words, and between them nothing or one character that ends no line. -/
def Joined (a b : String) (m : List Char) : Prop :=
  ∃ x gap y, m = x ++ gap ++ y ∧ Spells a x ∧ (gap.length ≤ 1 ∧ '\n' ∉ gap) ∧ Spells b y

/-- The text is of this form, and there is an edge of a word on either side of it. -/
def StandsAlone (P : List Char → Prop) (u m v : List Char) : Prop :=
  P m ∧ IsEdge u (m ++ v) ∧ IsEdge (u ++ m) v

/-- What is no letter has no other case. -/
theorem isCaseOf_iff_of_not_isAlpha {p : Char} (hp : p.isAlpha = false) (c : Char) :
    IsCaseOf p c ↔ c = p := by
  have hsmall : p.toLower = p := toLower_of_not_isAlpha (by simp [hp])
  constructor
  · rintro (hc | ⟨rfl, _⟩ | ⟨rfl, _⟩)
    · -- two characters that are one in small letters are the same or letters
      rcases eq_or_isAlpha (hc.trans hsmall.symm) with heq | ⟨_, hletter⟩
      · exact heq
      · rw [hp] at hletter
        cases hletter
    · exact absurd hp (by decide)
    · exact absurd hp (by decide)
  · rintro rfl
    exact Or.inl hsmall

theorem matches_word_iff {w : String} : (word w).Matches u m v ↔ Spells w m := by
  unfold word Spells
  generalize w.toList = cs
  induction cs generalizing u m with
  | nil => exact matches_nothing_iff.trans List.forall₂_nil_left_iff.symm
  | cons c cs ih =>
    rw [List.map_cons, matches_inOrder_cons_iff, List.forall₂_cons_left_iff]
    constructor
    · rintro ⟨x, y, rfl, hx, hy⟩
      obtain ⟨d, rfl, hd⟩ := matches_char_iff.1 hx
      exact ⟨d, y, hd, ih.1 hy, rfl⟩
    · rintro ⟨d, y, hd, hy, rfl⟩
      exact ⟨[d], y, rfl, .char hd, ih.2 hy⟩

theorem matches_joined_iff {a b : String} :
    (inOrder [word a, optional any, word b]).Matches u m v ↔ Joined a b m := by
  constructor
  · intro h
    obtain ⟨x, r, rfl, hx, h⟩ := matches_inOrder_cons_iff.1 h
    obtain ⟨g, y, rfl, hg, hy⟩ := matches_inOrder_cons_iff.1 h
    exact ⟨x, g, y, (List.append_assoc x g y).symm, matches_word_iff.1 hx,
      matches_optional_any_iff.1 hg, matches_word_iff.1 hy⟩
  · rintro ⟨x, g, y, rfl, hx, hg, hy⟩
    rw [List.append_assoc]
    refine matches_inOrder_cons_iff.2 ⟨x, g ++ y, rfl, matches_word_iff.2 hx, ?_⟩
    exact matches_inOrder_cons_iff.2 ⟨g, y, rfl, matches_optional_any_iff.2 hg,
      matches_word_iff.2 hy⟩

theorem matches_alone_iff {P : List Char → Prop} (h : ∀ u m v, p.Matches u m v ↔ P m) :
    (alone p).Matches u m v ↔ StandsAlone P u m v := by
  constructor
  · intro hm
    obtain ⟨x, r, rfl, hx, hm⟩ := matches_inOrder_cons_iff.1 hm
    obtain ⟨rfl, hfirst⟩ := matches_boundary_iff.1 hx
    -- the boundary takes no characters
    obtain ⟨y, z, rfl, hy, hz⟩ := matches_inOrder_cons_iff.1 hm
    obtain ⟨rfl, hlast⟩ := matches_boundary_iff.1 hz
    simp only [List.append_nil, List.nil_append] at *
    exact ⟨(h _ _ _).1 hy, hfirst, hlast⟩
  · rintro ⟨hm, hfirst, hlast⟩
    refine matches_inOrder_cons_iff.2 ⟨[], m, rfl, .boundary hfirst, ?_⟩
    rw [List.append_nil]
    exact matches_inOrder_cons_iff.2 ⟨m, [], (List.append_nil m).symm, (h _ _ _).2 hm,
      .boundary hlast⟩

end Pattern

end Precis.Text
