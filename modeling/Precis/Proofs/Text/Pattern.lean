import Precis.Proofs.Text.Ascii
import Precis.Text.Pattern

/-!
# What patterns match

A pattern matches some characters between what stands before them and what stands behind them
(`Pattern.Matches`): only a boundary asks about either side. The matcher decides this relation, and
looking for a pattern finds it where it matches any part of a text (`Pattern.occursIn_iff`). It goes
through the places of a text from left to right and hands what is left to the rest of the pattern,
so both directions speak of any continuation (`Pattern.Matches.matchThen`,
`Pattern.exists_of_matchThen`).

No pattern tells a capital from its small letter (`Pattern.Matches.recased`): whether a character is
part of a word, is a digit or ends a line is the same for all letters.
-/

namespace Precis.Text

namespace Pattern

/-! ## The relation -/

/-- The character is `p` or its capital, or it is one of the two characters beyond ASCII that fold
to a letter: the long s to `s`, the Kelvin sign to `k`. -/
def IsCaseOf (p c : Char) : Prop :=
  c.toLower = p ∨ p = 's' ∧ c = '\u017f' ∨ p = 'k' ∧ c = '\u212a'

/-- A word character is on one side and none on the other. -/
def IsEdge (before behind : List Char) : Prop :=
  ¬ ((∃ c ∈ before.getLast?, isWord c = true) ↔ ∃ c ∈ behind.head?, isWord c = true)

/-- The pattern matches `m`, which stands between `u` and `v`. -/
inductive Matches : Pattern → (u m v : List Char) → Prop where
  | char {p c : Char} {u v : List Char} (h : IsCaseOf p c) : Matches (char p) u [c] v
  | digit {c : Char} {u v : List Char} (h : isDecimalDigit c = true) : Matches digit u [c] v
  | any {c : Char} {u v : List Char} (h : c ≠ '\n') : Matches any u [c] v
  | gap {u m v : List Char} (h : '\n' ∉ m) : Matches gap u m v
  | boundary {u v : List Char} (h : IsEdge u v) : Matches boundary u [] v
  | nothing {u v : List Char} : Matches nothing u [] v
  | seq {p q : Pattern} {u m n v : List Char} (hp : Matches p u m (n ++ v))
    (hq : Matches q (u ++ m) n v) : Matches (seq p q) u (m ++ n) v
  | left {p q : Pattern} {u m v : List Char} (h : Matches p u m v) : Matches (alt p q) u m v
  | right {p q : Pattern} {u m v : List Char} (h : Matches q u m v) : Matches (alt p q) u m v

/-- The pattern matches some part of the text. -/
def FoundIn (p : Pattern) (s : String) : Prop := ∃ u m v, s.toList = u ++ m ++ v ∧ p.Matches u m v

/-! ## The matcher -/

/-- An ASCII character that is no capital. -/
def isSmall (c : Char) : Bool := c.toNat < 128 && !c.isUpper

/-- The pattern spells letters in lower case. -/
def isSpelled : Pattern → Bool
  | char c => isSmall c
  | seq p q | alt p q => p.isSpelled && q.isSpelled
  | _ => true

/-- A character is folded to `p` when it is a case of it, unless `p` is itself one of those that
fold to something else. -/
theorem fold_eq_iff {p : Char} (hp : isSmall p = true) (c : Char) : fold c = p ↔ IsCaseOf p c := by
  unfold fold
  -- the two characters that fold to a letter without being its capital
  by_cases hs : c = '\u017f'
  · subst hs
    rw [if_pos rfl]
    constructor
    · rintro rfl
      exact Or.inr (Or.inl ⟨rfl, rfl⟩)
    · rintro (rfl | ⟨rfl, _⟩ | ⟨_, hc⟩)
      · -- the long s is its own small letter, but no ASCII character
        exact absurd hp (by decide)
      · rfl
      · exact absurd hc (by decide)
  · rw [if_neg hs]
    by_cases hk : c = '\u212a'
    · subst hk
      rw [if_pos rfl]
      constructor
      · rintro rfl
        exact Or.inr (Or.inr ⟨rfl, rfl⟩)
      · rintro (rfl | ⟨_, hc⟩ | ⟨rfl, _⟩)
        · exact absurd hp (by decide)
        · exact absurd hc hs
        · rfl
    · rw [if_neg hk]
      constructor
      · intro hc
        exact Or.inl hc
      · rintro (hc | ⟨_, hc⟩ | ⟨_, hc⟩)
        · exact hc
        · exact absurd hc hs
        · exact absurd hc hk

theorem wordAt_iff (place : Option Char) : wordAt place = true ↔ ∃ c ∈ place, isWord c = true := by
  cases place with
  | none => simp [wordAt]
  | some c => simp [wordAt]

theorem atBoundary_iff (u v : List Char) : atBoundary u.getLast? v = true ↔ IsEdge u v := by
  rw [atBoundary, IsEdge, bne_iff_ne, Ne, Bool.eq_iff_iff, wordAt_iff, wordAt_iff]

theorem skipGap_append {next : Option Char → List Char → Bool} {m : List Char} (hm : '\n' ∉ m)
    {u v : List Char} (hnext : next (u ++ m).getLast? v = true) :
    skipGap next u.getLast? (m ++ v) = true := by
  induction m generalizing u with
  | nil =>
    rw [List.append_nil] at hnext
    rw [List.nil_append]
    cases v with
    | nil => exact hnext
    | cons c v =>
      rw [skipGap, hnext]
      rfl
  | cons c m ih =>
    rw [List.mem_cons, not_or] at hm
    -- the gap goes on behind `c`, which is now the character before
    have hrest : skipGap next (u ++ [c]).getLast? (m ++ v) = true := by
      apply ih hm.2
      rw [List.append_assoc]
      exact hnext
    rw [List.getLast?_concat] at hrest
    rw [List.cons_append, skipGap, hrest, bne_iff_ne.2 (Ne.symm hm.1)]
    simp

theorem exists_of_skipGap {next : Option Char → List Char → Bool} {u s : List Char}
    (h : skipGap next u.getLast? s = true) :
    ∃ m v, s = m ++ v ∧ '\n' ∉ m ∧ next (u ++ m).getLast? v = true := by
  induction s generalizing u with
  | nil =>
    rw [skipGap] at h
    exact ⟨[], [], rfl, by simp, by rwa [List.append_nil]⟩
  | cons c s ih =>
    rw [skipGap, Bool.or_eq_true, Bool.and_eq_true, bne_iff_ne] at h
    -- the gap ends here, or takes one more character
    rcases h with h | ⟨hc, h⟩
    · exact ⟨[], c :: s, rfl, by simp, by rwa [List.append_nil]⟩
    · rw [← List.getLast?_concat (l := u)] at h
      obtain ⟨m, v, rfl, hm, hnext⟩ := ih h
      refine ⟨c :: m, v, rfl, ?_, ?_⟩
      · rw [List.mem_cons, not_or]
        exact ⟨Ne.symm hc, hm⟩
      · rwa [List.append_assoc] at hnext

/-- What the relation has is matched, whatever has to hold behind it. -/
theorem Matches.matchThen {p : Pattern} {u m v : List Char} (h : p.Matches u m v)
    (hp : p.isSpelled = true) {next : Option Char → List Char → Bool}
    (hnext : next (u ++ m).getLast? v = true) : p.matchThen u.getLast? (m ++ v) next = true := by
  induction h generalizing next with
  | @char p c u v h =>
    rw [List.getLast?_concat] at hnext
    show (fold c == p && next (some c) v) = true
    rw [hnext, Bool.and_true, beq_iff_eq]
    exact (fold_eq_iff hp c).2 h
  | @digit c u v h =>
    rw [List.getLast?_concat] at hnext
    show (isDecimalDigit c && next (some c) v) = true
    rw [h, hnext]
    rfl
  | @any c u v h =>
    rw [List.getLast?_concat] at hnext
    show (c != '\n' && next (some c) v) = true
    rw [hnext, Bool.and_true, bne_iff_ne]
    exact h
  | gap h => exact skipGap_append h hnext
  | @boundary u v h =>
    rw [List.append_nil] at hnext
    show (atBoundary u.getLast? v && next u.getLast? v) = true
    rw [hnext, Bool.and_true]
    exact (atBoundary_iff u v).2 h
  | nothing =>
    rw [List.append_nil] at hnext
    exact hnext
  | seq _ _ ihp ihq =>
    -- what has to hold behind `p` is that `q` is matched there
    rw [isSpelled, Bool.and_eq_true] at hp
    rw [List.append_assoc]
    apply ihp hp.1
    apply ihq hp.2
    rwa [List.append_assoc]
  | left _ ih =>
    rw [isSpelled, Bool.and_eq_true] at hp
    exact Bool.or_eq_true_iff.2 (Or.inl (ih hp.1 hnext))
  | right _ ih =>
    rw [isSpelled, Bool.and_eq_true] at hp
    exact Bool.or_eq_true_iff.2 (Or.inr (ih hp.2 hnext))

/-- What is matched is in the relation. -/
theorem exists_of_matchThen {p : Pattern} (hp : p.isSpelled = true) {u s : List Char}
    {next : Option Char → List Char → Bool} (h : p.matchThen u.getLast? s next = true) :
    ∃ m v, s = m ++ v ∧ p.Matches u m v ∧ next (u ++ m).getLast? v = true := by
  induction p generalizing u s next with
  | char p =>
    cases s with
    | nil => cases h
    | cons c v =>
      rw [matchThen, Bool.and_eq_true, beq_iff_eq] at h
      exact ⟨[c], v, rfl, .char ((fold_eq_iff hp c).1 h.1), by rw [List.getLast?_concat]; exact h.2⟩
  | digit =>
    cases s with
    | nil => cases h
    | cons c v =>
      rw [matchThen, Bool.and_eq_true] at h
      exact ⟨[c], v, rfl, .digit h.1, by rw [List.getLast?_concat]; exact h.2⟩
  | any =>
    cases s with
    | nil => cases h
    | cons c v =>
      rw [matchThen, Bool.and_eq_true, bne_iff_ne] at h
      exact ⟨[c], v, rfl, .any h.1, by rw [List.getLast?_concat]; exact h.2⟩
  | gap =>
    obtain ⟨m, v, hs, hm, hnext⟩ := exists_of_skipGap h
    exact ⟨m, v, hs, .gap hm, hnext⟩
  | boundary =>
    rw [matchThen, Bool.and_eq_true, atBoundary_iff] at h
    exact ⟨[], s, rfl, .boundary h.1, by rw [List.append_nil]; exact h.2⟩
  | nothing => exact ⟨[], s, rfl, .nothing, by rw [List.append_nil]; exact h⟩
  | seq p q ihp ihq =>
    rw [isSpelled, Bool.and_eq_true] at hp
    obtain ⟨m, rest, rfl, hm, hrest⟩ := ihp hp.1 h
    obtain ⟨n, v, rfl, hn, hnext⟩ := ihq hp.2 hrest
    rw [List.append_assoc] at hnext
    exact ⟨m ++ n, v, (List.append_assoc m n v).symm, .seq hm hn, hnext⟩
  | alt p q ihp ihq =>
    rw [isSpelled, Bool.and_eq_true] at hp
    rw [matchThen, Bool.or_eq_true] at h
    -- the first branch is tried first, and either is a match
    rcases h with h | h
    · obtain ⟨m, v, hs, hm, hnext⟩ := ihp hp.1 h
      exact ⟨m, v, hs, .left hm, hnext⟩
    · obtain ⟨m, v, hs, hm, hnext⟩ := ihq hp.2 h
      exact ⟨m, v, hs, .right hm, hnext⟩

theorem matchesAt_iff {p : Pattern} (hp : p.isSpelled = true) (u s : List Char) :
    p.matchesAt u.getLast? s = true ↔ ∃ m v, s = m ++ v ∧ p.Matches u m v := by
  constructor
  · intro h
    obtain ⟨m, v, hs, hm, _⟩ := exists_of_matchThen hp h
    exact ⟨m, v, hs, hm⟩
  · rintro ⟨m, v, rfl, hm⟩
    exact hm.matchThen hp rfl

theorem occursFrom_iff {p : Pattern} (hp : p.isSpelled = true) (u s : List Char) :
    p.occursFrom u.getLast? s = true ↔ ∃ w m v, s = w ++ m ++ v ∧ p.Matches (u ++ w) m v := by
  induction s generalizing u with
  | nil =>
    rw [occursFrom, matchesAt_iff hp]
    constructor
    · rintro ⟨m, v, hs, hm⟩
      exact ⟨[], m, v, hs, by rwa [List.append_nil]⟩
    · rintro ⟨w, m, v, hs, hm⟩
      obtain ⟨hwm, rfl⟩ := List.append_eq_nil_iff.1 hs.symm
      obtain ⟨rfl, rfl⟩ := List.append_eq_nil_iff.1 hwm
      rw [List.append_nil] at hm
      exact ⟨[], [], rfl, hm⟩
  | cons c s ih =>
    -- at a later place `c` stands before it
    have hlater : p.occursFrom (some c) s = true ↔
        ∃ w m v, s = w ++ m ++ v ∧ p.Matches (u ++ [c] ++ w) m v := by
      rw [← List.getLast?_concat (l := u)]
      exact ih (u ++ [c])
    rw [occursFrom, Bool.or_eq_true, matchesAt_iff hp, hlater]
    constructor
    · -- the match begins here, or after the first character
      rintro (⟨m, v, hs, hm⟩ | ⟨w, m, v, rfl, hm⟩)
      · exact ⟨[], m, v, hs, by rwa [List.append_nil]⟩
      · exact ⟨c :: w, m, v, rfl, by rwa [List.append_assoc] at hm⟩
    · rintro ⟨w, m, v, hs, hm⟩
      cases w with
      | nil =>
        rw [List.append_nil] at hm
        exact Or.inl ⟨m, v, hs, hm⟩
      | cons d w =>
        obtain ⟨rfl, hrest⟩ := List.cons.inj hs
        exact Or.inr ⟨w, m, v, hrest, by rwa [List.append_assoc]⟩

/-- Looking for a pattern finds it where it matches. -/
theorem occursIn_iff {p : Pattern} (hp : p.isSpelled = true) (s : String) :
    p.occursIn s = true ↔ p.FoundIn s :=
  occursFrom_iff hp [] s.toList

/-! ## Capitals and small letters -/

theorem isWord_of_isAlpha {c : Char} (h : c.isAlpha = true) : isWord c = true := by
  have hname := isAlphanum_of_isAlpha h
  rw [isWord, if_pos (toNat_lt_of_isAlphanum hname), hname]
  rfl

theorem isDecimalDigit_of_isAlpha {c : Char} (h : c.isAlpha = true) : isDecimalDigit c = false := by
  rw [isDecimalDigit, if_pos (toNat_lt_of_isAlphanum (isAlphanum_of_isAlpha h))]
  exact of_isAlpha (p := fun c => c.isDigit = false) (by decide) h

/-- The texts differ at most in which of their letters are capitals. -/
def SameLetters (s t : List Char) : Prop := s.map Char.toLower = t.map Char.toLower

theorem SameLetters.append {s s' t t' : List Char} (hs : SameLetters s s') (ht : SameLetters t t') :
    SameLetters (s ++ t) (s' ++ t') := by
  unfold SameLetters at *
  rw [List.map_append, List.map_append, hs, ht]

/-- Where a text is in two parts, so is the other. -/
theorem SameLetters.split {s t r : List Char} (h : SameLetters (s ++ t) r) :
    ∃ s' t', r = s' ++ t' ∧ SameLetters s s' ∧ SameLetters t t' := by
  unfold SameLetters at h
  rw [List.map_append] at h
  obtain ⟨s', t', hr, hs, ht⟩ := List.map_eq_append_iff.1 h.symm
  exact ⟨s', t', hr, hs.symm, ht.symm⟩

theorem SameLetters.single {c : Char} {t : List Char} (h : SameLetters [c] t) :
    ∃ d, t = [d] ∧ c.toLower = d.toLower := by
  obtain ⟨d, hd, hcd⟩ := List.map_eq_singleton_iff.1 (Eq.symm h)
  exact ⟨d, hd, hcd.symm⟩

theorem SameLetters.nil {t : List Char} (h : SameLetters [] t) : t = [] :=
  List.map_eq_nil_iff.1 (Eq.symm h)

theorem exists_isWord_of_map {a b : Option Char} (h : a.map Char.toLower = b.map Char.toLower)
    (ha : ∃ c ∈ a, isWord c = true) : ∃ d ∈ b, isWord d = true := by
  obtain ⟨c, hc, hword⟩ := ha
  rw [Option.mem_def.1 hc, Option.map_some] at h
  obtain ⟨d, hd, hdc⟩ := Option.map_eq_some_iff.1 h.symm
  refine ⟨d, hd, ?_⟩
  rcases eq_or_isAlpha hdc with rfl | ⟨hletter, _⟩
  · exact hword
  · exact isWord_of_isAlpha hletter

theorem IsEdge.recased {u u' v v' : List Char} (h : IsEdge u v) (hu : SameLetters u u')
    (hv : SameLetters v v') : IsEdge u' v' := by
  have hlast : u.getLast?.map Char.toLower = u'.getLast?.map Char.toLower := by
    rw [← List.getLast?_map, ← List.getLast?_map, hu]
  have hhead : v.head?.map Char.toLower = v'.head?.map Char.toLower := by
    rw [← List.head?_map, ← List.head?_map, hv]
  intro hiff
  apply h
  constructor
  · intro hword
    exact exists_isWord_of_map hhead.symm (hiff.1 (exists_isWord_of_map hlast hword))
  · intro hword
    exact exists_isWord_of_map hlast.symm (hiff.2 (exists_isWord_of_map hhead hword))

theorem IsCaseOf.recased {p c d : Char} (h : IsCaseOf p c) (hcd : c.toLower = d.toLower) :
    IsCaseOf p d := by
  rcases eq_or_isAlpha hcd with rfl | ⟨hc, _⟩
  · exact h
  · -- what folds to a letter keeps its letter
    rcases h with hp | ⟨_, rfl⟩ | ⟨_, rfl⟩
    · exact Or.inl (hcd.symm.trans hp)
    · exact absurd hc (by decide)
    · exact absurd hc (by decide)

theorem ne_newline_recased {c d : Char} (h : c ≠ '\n') (hcd : c.toLower = d.toLower) :
    d ≠ '\n' := by
  rcases eq_or_isAlpha hcd with rfl | ⟨_, hd⟩
  · exact h
  · rintro rfl
    exact absurd hd (by decide)

/-- A pattern goes on matching when letters become capitals or small, in what it matches or around
it. -/
theorem Matches.recased {p : Pattern} {u m v u' m' v' : List Char} (h : p.Matches u m v)
    (hu : SameLetters u u') (hm : SameLetters m m') (hv : SameLetters v v') :
    p.Matches u' m' v' := by
  induction h generalizing u' m' v' with
  | char h =>
    obtain ⟨d, rfl, hcd⟩ := hm.single
    exact .char (h.recased hcd)
  | digit h =>
    obtain ⟨d, rfl, hcd⟩ := hm.single
    apply Matches.digit
    rcases eq_or_isAlpha hcd with rfl | ⟨hc, _⟩
    · exact h
    · rw [isDecimalDigit_of_isAlpha hc] at h
      cases h
  | any h =>
    obtain ⟨d, rfl, hcd⟩ := hm.single
    exact .any (ne_newline_recased h hcd)
  | @gap u m v h =>
    -- a line feed in the one text would be one in the other
    apply Matches.gap
    intro hnewline
    have hlower : Char.toLower '\n' ∈ m.map Char.toLower := by
      rw [hm]
      exact List.mem_map_of_mem hnewline
    obtain ⟨c, hc, hsame⟩ := List.mem_map.1 hlower
    refine ne_newline_recased ?_ hsame rfl
    rintro rfl
    exact h hc
  | boundary h =>
    rw [hm.nil]
    exact .boundary (h.recased hu hv)
  | nothing =>
    rw [hm.nil]
    exact .nothing
  | seq _ _ ihp ihq =>
    obtain ⟨m₁, m₂, rfl, h₁, h₂⟩ := hm.split
    exact .seq (ihp hu h₁ (h₂.append hv)) (ihq (hu.append h₁) h₂ hv)
  | left _ ih => exact .left (ih hu hm hv)
  | right _ ih => exact .right (ih hu hm hv)

/-- Whether a pattern is found does not depend on which letters are capitals. -/
theorem FoundIn.recased {p : Pattern} {s t : String} (h : p.FoundIn s)
    (hst : SameLetters s.toList t.toList) : p.FoundIn t := by
  obtain ⟨u, m, v, hs, hm⟩ := h
  rw [hs] at hst
  obtain ⟨um, v', ht, hum, hv⟩ := hst.split
  obtain ⟨u', m', rfl, hu, hm'⟩ := hum.split
  exact ⟨u', m', v', ht, hm.recased hu hm' hv⟩

end Pattern

end Precis.Text
