import Precis.Json.Reader
import Precis.Proofs.Text.Digits

/-!
# Reading what was written

A document whose numbers are integers and whose strings are spelled by `escape` is `Plain`; these
are the documents that records are written as. `parse_render`: the text of a plain document reads
back as the document. A number is read as far as it goes, so the lemmas for the parts say what must
not follow them: `NumberEnds`.
-/

namespace Precis.Json

open Text

/-- A document of integers and escaped texts. -/
inductive Plain : Json → Prop where
  | null : Plain null
  | bool (b : Bool) : Plain (bool b)
  | integer (n : Int) : Plain (ofInt n)
  | text (s : List Char) : Plain (string (escape s))
  | array (items : List Json) (h : ∀ v ∈ items, Plain v) : Plain (array items)
  | object (fields : List (List Char × Json)) (keys : ∀ f ∈ fields, ∃ s, f.1 = escape s)
    (h : ∀ f ∈ fields, Plain f.2) : Plain (object fields)

/-! ## Numbers -/

/-- A number that stands before this text ends there. -/
def NumberEnds (s : List Char) : Prop :=
  ∀ c ∈ s.head?, c.isDigit = false ∧ c ≠ '.' ∧ c ≠ 'e' ∧ c ≠ 'E'

theorem NumberEnds.noDigit {s : List Char} (h : NumberEnds s) : NoDigit s := fun c hc => (h c hc).1

theorem numberEnds_nil : NumberEnds [] := by
  intro c hc
  cases hc

theorem numberEnds_cons {c : Char} (s : List Char)
    (h : c.isDigit = false ∧ c ≠ '.' ∧ c ≠ 'e' ∧ c ≠ 'E') : NumberEnds (c :: s) := by
  intro d hd
  cases hd
  exact h

theorem spanDigits_append {ds rest : List Char} (hds : ∀ c ∈ ds, c.isDigit = true)
    (hrest : NoDigit rest) : spanDigits (ds ++ rest) = (ds, rest) := by
  rw [spanDigits, takeWhile_digits hds hrest, dropWhile_digits hds hrest]

theorem wholePart_decimalDigits (n : Nat) {rest : List Char} (hrest : NumberEnds rest) :
    wholePart (decimalDigits n ++ rest) = some (decimalDigits n, rest) := by
  rw [wholePart, spanDigits_append (isDigit_of_mem_decimalDigits n) hrest.noDigit]
  split
  · rename_i heq
    exact absurd (Prod.mk.inj heq).1 (decimalDigits_ne_nil n)
  · -- a leading zero stands alone
    rename_i ds rest' heq
    obtain ⟨hdigits, rfl⟩ := Prod.mk.inj heq
    have hds := (decimalDigits_eq_zero_cons hdigits).2
    rw [hdigits, hds, List.nil_append]
  · rename_i heq
    obtain ⟨rfl, rfl⟩ := Prod.mk.inj heq
    rfl

theorem magnitude_decimalDigits (n : Nat) {rest : List Char} (hrest : NumberEnds rest) :
    magnitude (decimalDigits n ++ rest) = some (decimalDigits n, rest) := by
  have hfraction : fractionPart rest = some ([], rest) := by
    cases rest with
    | nil => rfl
    | cons c rest =>
      have hc := (hrest c rfl).2.1
      rw [fractionPart]
      rintro s hs
      exact hc (List.cons.inj hs).1
  have hexponent : exponentPart rest = some ([], rest) := by
    cases rest with
    | nil => rfl
    | cons c rest =>
      obtain ⟨_, _, he, hE⟩ := hrest c rfl
      rw [exponentPart, if_neg (by simp [he, hE])]
  simp [magnitude, wholePart_decimalDigits n hrest, hfraction, hexponent]

theorem head_decimalDigits (n : Nat) :
    ∃ c ds, decimalDigits n = c :: ds ∧ c.isDigit = true := by
  cases h : decimalDigits n with
  | nil => exact absurd h (decimalDigits_ne_nil n)
  | cons c ds =>
    refine ⟨c, ds, rfl, isDigit_of_mem_decimalDigits n c ?_⟩
    rw [h]
    exact List.mem_cons_self

theorem numberAt_signedDigits (n : Int) {rest : List Char} (hrest : NumberEnds rest) :
    numberAt (signedDigits n ++ rest) = some (signedDigits n, rest) := by
  have h := magnitude_decimalDigits n.natAbs hrest
  rw [signedDigits]
  split
  · rw [List.cons_append, numberAt, h]
    rfl
  · obtain ⟨c, ds, hdigits, hc⟩ := head_decimalDigits n.natAbs
    rw [hdigits, List.cons_append] at h ⊢
    rw [numberAt]
    · exact h
    · rintro s hs
      rw [(List.cons.inj hs).1] at hc
      cases hc

/-! ## Strings -/

theorem stringBody_escapeChar (c : Char) (rest : List Char) :
    stringBody (escapeChar c ++ rest)
      = (stringBody rest).map fun r => (escapeChar c ++ r.1, r.2) := by
  unfold escapeChar
  split
  · rfl
  split
  · rfl
  split
  · rfl
  split
  · rfl
  split
  · rfl
  split
  · rfl
  split
  · rfl
  split
  · -- other control characters are spelled by their code
    rename_i h
    have code : ∀ n, n < 32 →
        hexFour '0' '0' (digitChar (n / 16)) (digitChar (n % 16)) = some n := by decide
    simp [stringBody, code c.toNat h]
  · rename_i hquote hback _ _ _ _ _ hcontrol
    simp only [List.cons_append, List.nil_append]
    rw [stringBody]
    · simp [hback, hcontrol]
    all_goals simp_all

/-- A spelling by `escape` is read up to its closing quote. -/
theorem stringBody_escape (s rest : List Char) :
    stringBody (escape s ++ '"' :: rest) = some (escape s, rest) := by
  induction s with
  | nil => rfl
  | cons c s ih =>
    have h : escape (c :: s) = escapeChar c ++ escape s := rfl
    rw [h, List.append_assoc, stringBody_escapeChar, ih]
    rfl

/-! ## Values -/

/-- The document is read from its text, whatever ends a number after it. -/
def Reads (v : Json) : Prop :=
  ∀ rest, NumberEnds rest → ∀ fuel, 2 * v.compact.length ≤ fuel →
    value fuel (v.compact ++ rest) = some (v, rest)

theorem skipSpace_cons {c : Char} {s : List Char} (h : isSpace c = false) :
    skipSpace (c :: s) = c :: s := by
  rw [skipSpace, List.dropWhile_cons_of_neg (by simp [h])]

theorem isSpace_of_isDigit {c : Char} (h : c.isDigit = true) : isSpace c = false := by
  have hne : c ≠ ' ' ∧ c ≠ '\t' ∧ c ≠ '\n' ∧ c ≠ '\r' := by
    refine ⟨?_, ?_, ?_, ?_⟩ <;>
    · rintro rfl
      cases h
  simp [isSpace, hne]

/-- A value that is neither an array nor an object is read by its first character. -/
theorem value_scalar {c : Char} {s : List Char} (hspace : isSpace c = false) (harray : c ≠ '[')
    (hobject : c ≠ '\x7b') {fuel : Nat} (hfuel : 0 < fuel) :
    value fuel (c :: s) = scalarAt (c :: s) := by
  cases fuel with
  | zero => omega
  | succ fuel =>
    rw [value, skipSpace_cons hspace]
    split
    · rename_i h
      exact absurd (List.cons.inj h).1 harray
    · rename_i h
      exact absurd (List.cons.inj h).1 hobject
    · rfl

/-- What is enough to read a text that is not empty is not zero. -/
theorem pos_of_length_le {v : Json} {c : Char} {s : List Char} (h : v.compact = c :: s) {fuel : Nat}
    (hfuel : 2 * v.compact.length ≤ fuel) : 0 < fuel := by
  rw [h, List.length_cons] at hfuel
  omega

theorem reads_integer (n : Int) : Reads (ofInt n) := by
  intro rest hrest fuel hfuel
  have hread := numberAt_signedDigits n hrest
  -- the first character is a minus or a digit
  have hhead : ∃ c s, signedDigits n = c :: s ∧ (c = '-' ∨ c.isDigit = true) := by
    rw [signedDigits]
    split
    · exact ⟨_, _, rfl, Or.inl rfl⟩
    · obtain ⟨c, ds, hdigits, hc⟩ := head_decimalDigits n.natAbs
      exact ⟨c, ds, hdigits, Or.inr hc⟩
  obtain ⟨c, s, hs, hc⟩ := hhead
  have hne : isSpace c = false ∧ c ≠ '[' ∧ c ≠ '\x7b' ∧ c ≠ '"' ∧ c ≠ 'n' ∧ c ≠ 't' ∧ c ≠ 'f' := by
    rcases hc with rfl | hc
    · decide
    · refine ⟨isSpace_of_isDigit hc, ?_, ?_, ?_, ?_, ?_, ?_⟩ <;>
      · rintro rfl
        cases hc
  obtain ⟨hspace, harray, hobject, hquote, hn, ht, hf⟩ := hne
  have hcompact : (ofInt n).compact = c :: s := by rw [ofInt, compact, hs]
  have hpos := pos_of_length_le hcompact hfuel
  rw [hcompact, List.cons_append, value_scalar hspace harray hobject hpos]
  rw [hs, List.cons_append] at hread
  rw [scalarAt, hread]
  · rw [← hs]
    rfl
  all_goals
    intro s' hs'
    exact absurd (List.cons.inj hs').1 (by assumption)

theorem reads_null : Reads null := by
  intro rest _ fuel hfuel
  have hcompact : (null).compact = 'n' :: "ull".toList := rfl
  have hpos := pos_of_length_le hcompact hfuel
  show value fuel ('n' :: "ull".toList ++ rest) = _
  rw [List.cons_append, value_scalar (by decide) (by decide) (by decide) hpos]
  rfl

theorem reads_bool (b : Bool) : Reads (bool b) := by
  intro rest _ fuel hfuel
  cases b with
  | true =>
    have hcompact : (bool true).compact = 't' :: "rue".toList := rfl
    have hpos := pos_of_length_le hcompact hfuel
    show value fuel ('t' :: "rue".toList ++ rest) = _
    rw [List.cons_append, value_scalar (by decide) (by decide) (by decide) hpos]
    rfl
  | false =>
    have hcompact : (bool false).compact = 'f' :: "alse".toList := rfl
    have hpos := pos_of_length_le hcompact hfuel
    show value fuel ('f' :: "alse".toList ++ rest) = _
    rw [List.cons_append, value_scalar (by decide) (by decide) (by decide) hpos]
    rfl

theorem reads_text (s : List Char) : Reads (string (escape s)) := by
  intro rest _ fuel hfuel
  have hcompact : (string (escape s)).compact = '"' :: escape s ++ ['"'] := by rw [compact, quote]
  have hpos := pos_of_length_le hcompact hfuel
  rw [hcompact, List.append_assoc, List.cons_append,
    value_scalar (by decide) (by decide) (by decide) hpos, scalarAt, List.singleton_append,
    stringBody_escape]
  rfl

/-! ## Arrays and objects -/

/-- No blank stands before a value that reads back, and no closing bracket. -/
theorem Plain.head_compact {v : Json} (h : Plain v) :
    ∃ c s, v.compact = c :: s ∧ isSpace c = false ∧ c ≠ ']' := by
  cases h with
  | null => exact ⟨'n', _, rfl, by decide, by decide⟩
  | bool b =>
    cases b with
    | true => exact ⟨'t', _, rfl, by decide, by decide⟩
    | false => exact ⟨'f', _, rfl, by decide, by decide⟩
  | integer n =>
    rw [ofInt, compact, signedDigits]
    split
    · exact ⟨'-', _, rfl, by decide, by decide⟩
    · obtain ⟨c, ds, hdigits, hc⟩ := head_decimalDigits n.natAbs
      refine ⟨c, ds, hdigits, isSpace_of_isDigit hc, ?_⟩
      rintro rfl
      cases hc
  | text s => exact ⟨'"', escape s ++ ['"'], by rw [compact, quote]; rfl, by decide, by decide⟩
  | array items _ => exact ⟨'[', compactItems items, by rw [compact], by decide, by decide⟩
  | object fields _ _ =>
    exact ⟨'\x7b', compactFields fields, by rw [compact], by decide, by decide⟩

theorem compactItems_cons (v : Json) {rest : List Json} (h : rest ≠ []) :
    compactItems (v :: rest) = v.compact ++ ',' :: compactItems rest := by
  cases rest with
  | nil => exact absurd rfl h
  | cons w rest => rw [compactItems]; simp

theorem compactFields_cons (k : List Char) (v : Json) {rest : List (List Char × Json)}
    (h : rest ≠ []) :
    compactFields ((k, v) :: rest) = quote k ++ ':' :: v.compact ++ ',' :: compactFields rest := by
  cases rest with
  | nil => exact absurd rfl h
  | cons w rest => rw [compactFields]; simp

theorem elements_compactItems (items : List Json) (hne : items ≠ []) (h : ∀ v ∈ items, Reads v)
    (rest : List Char) (fuel : Nat) (hfuel : 2 * (compactItems items).length ≤ fuel) :
    elements fuel (compactItems items ++ rest) = some (items, rest) := by
  induction items generalizing fuel with
  | nil => exact absurd rfl hne
  | cons v more ih =>
    have hv := h v List.mem_cons_self
    cases fuel with
    | zero =>
      cases more with
      | nil => simp [compactItems] at hfuel
      | cons w more => rw [compactItems_cons v (by simp)] at hfuel; simp at hfuel
    | succ fuel =>
      cases more with
      | nil =>
        -- the last element ends with the bracket, the others with a comma
        rw [compactItems, List.length_append, List.length_singleton] at hfuel
        have hvalue : value fuel (v.compact ++ ']' :: rest) = some (v, ']' :: rest) :=
          hv _ (numberEnds_cons rest (by decide)) fuel (by omega)
        rw [compactItems, List.append_assoc, List.singleton_append, elements, hvalue]
        rfl
      | cons w more =>
        rw [compactItems_cons v (by simp), List.length_append, List.length_cons] at hfuel
        have hmore := ih (by simp) (fun u hu => h u (List.mem_cons_of_mem _ hu)) fuel (by omega)
        have hvalue : value fuel (v.compact ++ ',' :: (compactItems (w :: more) ++ rest))
            = some (v, ',' :: (compactItems (w :: more) ++ rest)) :=
          hv _ (numberEnds_cons _ (by decide)) fuel (by omega)
        rw [compactItems_cons v (by simp), List.append_assoc, List.cons_append, elements, hvalue]
        simp only [skipSpace_cons (show isSpace ',' = false by decide), hmore]
        rfl

theorem members_compactFields (fields : List (List Char × Json)) (hne : fields ≠ [])
    (keys : ∀ f ∈ fields, ∃ s, f.1 = escape s) (h : ∀ f ∈ fields, Reads f.2)
    (rest : List Char) (fuel : Nat) (hfuel : 2 * (compactFields fields).length ≤ fuel) :
    members fuel (compactFields fields ++ rest) = some (fields, rest) := by
  induction fields generalizing fuel with
  | nil => exact absurd rfl hne
  | cons f more ih =>
    obtain ⟨k, v⟩ := f
    have hv : Reads v := h (k, v) List.mem_cons_self
    obtain ⟨s, rfl⟩ : ∃ s, k = escape s := keys (k, v) List.mem_cons_self
    have hquote : ∀ tail, quote (escape s) ++ tail = '"' :: (escape s ++ '"' :: tail) := by
      intro tail
      rw [quote, List.append_assoc, List.singleton_append, List.cons_append]
    cases fuel with
    | zero =>
      cases more with
      | nil => simp [compactFields] at hfuel
      | cons w more => rw [compactFields_cons _ _ (by simp)] at hfuel; simp at hfuel
    | succ fuel =>
      cases more with
      | nil =>
        rw [compactFields] at hfuel ⊢
        simp only [List.length_append, List.length_cons, List.length_nil] at hfuel
        have hvalue : value fuel (v.compact ++ '\x7d' :: rest) = some (v, '\x7d' :: rest) :=
          hv _ (numberEnds_cons rest (by decide)) fuel (by omega)
        rw [List.append_assoc, List.append_assoc, List.cons_append, hquote, members,
          skipSpace_cons (by decide)]
        simp only [stringBody_escape, skipSpace_cons (show isSpace ':' = false by decide),
          List.singleton_append, hvalue, skipSpace_cons (show isSpace '\x7d' = false by decide)]
      | cons w more =>
        rw [compactFields_cons _ _ (by simp)] at hfuel ⊢
        simp only [List.length_append, List.length_cons] at hfuel
        have hmore := ih (by simp) (fun f hf => keys f (List.mem_cons_of_mem _ hf))
          (fun f hf => h f (List.mem_cons_of_mem _ hf)) fuel (by omega)
        have hvalue : value fuel (v.compact ++ ',' :: (compactFields (w :: more) ++ rest))
            = some (v, ',' :: (compactFields (w :: more) ++ rest)) :=
          hv _ (numberEnds_cons _ (by decide)) fuel (by omega)
        rw [List.append_assoc, List.append_assoc, List.cons_append, List.cons_append, hquote,
          members, skipSpace_cons (by decide)]
        simp only [stringBody_escape, skipSpace_cons (show isSpace ':' = false by decide), hvalue,
          skipSpace_cons (show isSpace ',' = false by decide), hmore]
        rfl

theorem reads_array (items : List Json) (hplain : ∀ v ∈ items, Plain v)
    (h : ∀ v ∈ items, Reads v) : Reads (array items) := by
  intro rest _ fuel hfuel
  rw [compact, List.length_cons] at hfuel
  cases fuel with
  | zero => omega
  | succ fuel =>
    rw [compact, List.cons_append, value, skipSpace_cons (by decide)]
    cases items with
    | nil => rfl
    | cons v more =>
      have helements := elements_compactItems (v :: more) (by simp) h rest fuel (by omega)
      -- the first element keeps the array from being closed at once
      obtain ⟨c, s, hc, hspace, hbracket⟩ := (hplain v List.mem_cons_self).head_compact
      have hhead : ∃ s, compactItems (v :: more) ++ rest = c :: s := by
        cases more with
        | nil => exact ⟨_, by rw [compactItems, hc]; rfl⟩
        | cons w more => exact ⟨_, by rw [compactItems_cons v (by simp), hc]; rfl⟩
      obtain ⟨s', hs'⟩ := hhead
      rw [hs'] at helements ⊢
      simp only [skipSpace_cons hspace]
      split
      · rename_i heq
        exact absurd (List.cons.inj heq).1 hbracket
      · rw [helements]
        rfl

theorem reads_object (fields : List (List Char × Json)) (keys : ∀ f ∈ fields, ∃ s, f.1 = escape s)
    (h : ∀ f ∈ fields, Reads f.2) : Reads (object fields) := by
  intro rest _ fuel hfuel
  rw [compact, List.length_cons] at hfuel
  cases fuel with
  | zero => omega
  | succ fuel =>
    rw [compact, List.cons_append, value, skipSpace_cons (by decide)]
    cases fields with
    | nil => rfl
    | cons f more =>
      have hmembers := members_compactFields (f :: more) (by simp) keys h rest fuel (by omega)
      have hhead : ∃ s, compactFields (f :: more) ++ rest = '"' :: s := by
        cases more with
        | nil => exact ⟨_, by rw [compactFields, quote]; rfl⟩
        | cons w more => exact ⟨_, by rw [compactFields_cons _ _ (by simp), quote]; rfl⟩
      obtain ⟨s', hs'⟩ := hhead
      rw [hs'] at hmembers ⊢
      simp only [skipSpace_cons (show isSpace '"' = false by decide)]
      show (members fuel ('"' :: s')).map (fun r => (object r.1, r.2)) = _
      rw [hmembers]
      rfl

theorem Plain.reads {v : Json} (h : Plain v) : Reads v := by
  induction h with
  | null => exact reads_null
  | bool b => exact reads_bool b
  | integer n => exact reads_integer n
  | text s => exact reads_text s
  | array items hplain ih => exact reads_array items hplain ih
  | object fields keys _ ih => exact reads_object fields keys ih

/-- The text of a plain document reads back as the document. -/
theorem parse_render {v : Json} (h : Plain v) : parse v.render = some v := by
  have hread := h.reads [] numberEnds_nil (2 * v.compact.length + 2) (by omega)
  rw [List.append_nil] at hread
  rw [parse, render, String.toList_ofList, document, hread]
  rfl

end Precis.Json
