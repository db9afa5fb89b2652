import Precis.Proofs.Json.RoundTrip

/-!
# Reading what was written with indentation

A plain document reads back from its indented text too, with any blanks after it:
`document_indentedAt`.

The reader takes no notice of blanks before a value (`value_append`), and what is written on the
lines of an array or an object is read as it is without the line breaks; so the argument is that of
the compact text, with a line break skipped at each step.
-/

namespace Precis.Json

open Text

/-! ## Blanks -/

/-- Holds blanks only. -/
def Blanks (s : List Char) : Prop := ∀ c ∈ s, isSpace c = true

theorem blanks_newline (n : Nat) : Blanks (newline n) := by
  intro c hc
  rcases List.mem_cons.1 hc with rfl | hc
  · rfl
  · rw [List.eq_of_mem_replicate hc]
    rfl

theorem skipSpace_append {blanks : List Char} (h : Blanks blanks) (s : List Char) :
    skipSpace (blanks ++ s) = skipSpace s :=
  List.dropWhile_append_of_pos h

theorem value_append {blanks : List Char} (h : Blanks blanks) (fuel : Nat) (s : List Char) :
    value fuel (blanks ++ s) = value fuel s := by
  cases fuel with
  | zero => rfl
  | succ fuel => rw [value, value, skipSpace_append h]

theorem elements_append {blanks : List Char} (h : Blanks blanks) (fuel : Nat) (s : List Char) :
    elements fuel (blanks ++ s) = elements fuel s := by
  cases fuel with
  | zero => rfl
  | succ fuel => rw [elements, elements, value_append h]

theorem members_append {blanks : List Char} (h : Blanks blanks) (fuel : Nat) (s : List Char) :
    members fuel (blanks ++ s) = members fuel s := by
  cases fuel with
  | zero => rfl
  | succ fuel => rw [members, members, skipSpace_append h]

/-! ## Values -/

/-- The document is read from its text inside any number of brackets. -/
def ReadsIndented (v : Json) : Prop :=
  ∀ n rest, NumberEnds rest → ∀ fuel, 2 * (v.indentedAt n).length ≤ fuel →
    value fuel (v.indentedAt n ++ rest) = some (v, rest)

/-- A document that has one text only is read from it as it is from its compact text. -/
theorem Reads.indented {v : Json} (h : Reads v) (hsame : ∀ n, v.indentedAt n = v.compact) :
    ReadsIndented v := by
  intro n rest hrest fuel hfuel
  rw [hsame] at hfuel ⊢
  exact h rest hrest fuel hfuel

theorem Plain.head_indentedAt {v : Json} (h : Plain v) (n : Nat) :
    ∃ c s, v.indentedAt n = c :: s ∧ isSpace c = false ∧ c ≠ ']' := by
  cases h with
  | null => exact ⟨'n', _, rfl, by decide, by decide⟩
  | bool b => exact (Plain.bool b).head_compact
  | integer n => exact (Plain.integer n).head_compact
  | text s => exact (Plain.text s).head_compact
  | array items _ =>
    cases items with
    | nil => exact ⟨'[', [']'], rfl, by decide, by decide⟩
    | cons v rest => exact ⟨'[', indentedItems n (v :: rest), rfl, by decide, by decide⟩
  | object fields _ _ =>
    cases fields with
    | nil => exact ⟨'\x7b', ['\x7d'], rfl, by decide, by decide⟩
    | cons f rest => exact ⟨'\x7b', indentedFields n (f :: rest), rfl, by decide, by decide⟩

/-! ## Arrays and objects -/

/-- What follows an element of an array on its line, and after it. -/
def itemsTail (n : Nat) : List Json → List Char
  | [] => newline n ++ [']']
  | v :: rest => ',' :: indentedItems n (v :: rest)

/-- What follows a member of an object on its line, and after it. -/
def fieldsTail (n : Nat) : List (List Char × Json) → List Char
  | [] => newline n ++ ['\x7d']
  | f :: rest => ',' :: indentedFields n (f :: rest)

theorem indentedItems_cons (n : Nat) (v : Json) (rest : List Json) :
    indentedItems n (v :: rest) = newline (n + 1) ++
      (v.indentedAt (n + 1) ++ itemsTail n rest) := by
  cases rest with
  | nil => simp [indentedItems, itemsTail]
  | cons w rest => simp [indentedItems, itemsTail]

theorem indentedFields_cons (n : Nat) (k : List Char) (v : Json) (rest : List (List Char × Json)) :
    indentedFields n ((k, v) :: rest)
      = newline (n + 1) ++
        (quote k ++ ':' :: ' ' :: (v.indentedAt (n + 1) ++ fieldsTail n rest)) := by
  cases rest with
  | nil => simp [indentedFields, fieldsTail]
  | cons f rest => simp [indentedFields, fieldsTail]

theorem numberEnds_itemsTail (n : Nat) (items : List Json) (s : List Char) :
    NumberEnds (itemsTail n items ++ s) := by
  cases items with
  | nil => exact numberEnds_cons _ (by decide)
  | cons v rest => exact numberEnds_cons _ (by decide)

theorem numberEnds_fieldsTail (n : Nat) (fields : List (List Char × Json)) (s : List Char) :
    NumberEnds (fieldsTail n fields ++ s) := by
  cases fields with
  | nil => exact numberEnds_cons _ (by decide)
  | cons f rest => exact numberEnds_cons _ (by decide)

theorem elements_indentedItems (n : Nat) (items : List Json) (hne : items ≠ [])
    (h : ∀ v ∈ items, ReadsIndented v) (rest : List Char) (fuel : Nat)
    (hfuel : 2 * (indentedItems n items).length ≤ fuel) :
    elements fuel (indentedItems n items ++ rest) = some (items, rest) := by
  induction items generalizing fuel with
  | nil => exact absurd rfl hne
  | cons v more ih =>
    rw [indentedItems_cons, List.length_append, List.length_append] at hfuel
    have hline : 0 < (newline (n + 1)).length := Nat.succ_pos _
    rw [indentedItems_cons, List.append_assoc, elements_append (blanks_newline _),
      List.append_assoc]
    cases fuel with
    | zero => omega
    | succ fuel =>
      have hvalue := h v List.mem_cons_self (n + 1) (itemsTail n more ++ rest)
        (numberEnds_itemsTail n more rest) fuel (by omega)
      rw [elements, hvalue]
      cases more with
      | nil =>
        -- the last element ends with a line break and the bracket, the others with a comma
        rw [itemsTail, List.append_assoc]
        simp only [skipSpace_append (blanks_newline n), List.singleton_append,
          skipSpace_cons (show isSpace ']' = false by decide)]
      | cons w more =>
        rw [itemsTail, List.length_cons] at hfuel
        have hmore := ih (by simp) (fun u hu => h u (List.mem_cons_of_mem _ hu)) fuel (by omega)
        rw [itemsTail, List.cons_append]
        simp only [skipSpace_cons (show isSpace ',' = false by decide), hmore]
        rfl

theorem members_indentedFields (n : Nat) (fields : List (List Char × Json)) (hne : fields ≠ [])
    (keys : ∀ f ∈ fields, ∃ s, f.1 = escape s) (h : ∀ f ∈ fields, ReadsIndented f.2)
    (rest : List Char) (fuel : Nat) (hfuel : 2 * (indentedFields n fields).length ≤ fuel) :
    members fuel (indentedFields n fields ++ rest) = some (fields, rest) := by
  induction fields generalizing fuel with
  | nil => exact absurd rfl hne
  | cons f more ih =>
    obtain ⟨k, v⟩ := f
    obtain ⟨s, rfl⟩ : ∃ s, k = escape s := keys (k, v) List.mem_cons_self
    rw [indentedFields_cons, List.length_append, List.length_append, List.length_cons,
      List.length_cons, List.length_append] at hfuel
    have hline : 0 < (newline (n + 1)).length := Nat.succ_pos _
    have hquote : ∀ tail, quote (escape s) ++ tail = '"' :: (escape s ++ '"' :: tail) := by
      intro tail
      rw [quote, List.append_assoc, List.singleton_append, List.cons_append]
    have hblank : Blanks [' '] := by simp [Blanks, isSpace]
    rw [indentedFields_cons, List.append_assoc, members_append (blanks_newline _),
      List.append_assoc, List.cons_append, List.cons_append, List.append_assoc]
    cases fuel with
    | zero => omega
    | succ fuel =>
      have hvalue : value fuel (' ' :: (v.indentedAt (n + 1) ++ (fieldsTail n more ++ rest)))
          = some (v, fieldsTail n more ++ rest) := by
        have hv : ReadsIndented v := h (escape s, v) List.mem_cons_self
        rw [← List.singleton_append, value_append hblank]
        exact hv (n + 1) _ (numberEnds_fieldsTail n more rest) fuel (by omega)
      rw [hquote, members, skipSpace_cons (by decide)]
      simp only [stringBody_escape, skipSpace_cons (show isSpace ':' = false by decide), hvalue]
      -- after the value either the object is closed or a comma leads on
      cases more with
      | nil =>
        rw [fieldsTail, List.append_assoc]
        simp only [skipSpace_append (blanks_newline n), List.singleton_append,
          skipSpace_cons (show isSpace '\x7d' = false by decide)]
      | cons w more =>
        rw [fieldsTail, List.length_cons] at hfuel
        have hmore := ih (by simp) (fun f hf => keys f (List.mem_cons_of_mem _ hf))
          (fun f hf => h f (List.mem_cons_of_mem _ hf)) fuel (by omega)
        rw [fieldsTail, List.cons_append]
        simp only [skipSpace_cons (show isSpace ',' = false by decide), hmore]
        rfl

theorem readsIndented_array (items : List Json) (hplain : ∀ v ∈ items, Plain v)
    (h : ∀ v ∈ items, ReadsIndented v) : ReadsIndented (array items) := by
  intro n rest _ fuel hfuel
  cases items with
  | nil =>
    -- an empty array has no blanks inside
    cases fuel with
    | zero => simp [indentedAt] at hfuel
    | succ fuel => rfl
  | cons v more =>
    have htext : (array (v :: more)).indentedAt n = '[' :: indentedItems n (v :: more) := rfl
    rw [htext, List.length_cons] at hfuel
    cases fuel with
    | zero => omega
    | succ fuel =>
      have helements := elements_indentedItems n (v :: more) (by simp) h rest fuel (by omega)
      -- the first element keeps the array from being closed at once
      obtain ⟨c, s, hc, hspace, hbracket⟩ := (hplain v List.mem_cons_self).head_indentedAt (n + 1)
      rw [indentedItems_cons, List.append_assoc, elements_append (blanks_newline _), hc,
        List.append_assoc, List.cons_append] at helements
      rw [htext, List.cons_append, value, skipSpace_cons (by decide), indentedItems_cons,
        List.append_assoc, hc, List.append_assoc, List.cons_append]
      simp only [skipSpace_append (blanks_newline _), skipSpace_cons hspace]
      split
      · rename_i heq
        exact absurd (List.cons.inj heq).1 hbracket
      · rw [helements]
        rfl

theorem readsIndented_object (fields : List (List Char × Json))
    (keys : ∀ f ∈ fields, ∃ s, f.1 = escape s) (h : ∀ f ∈ fields, ReadsIndented f.2) :
    ReadsIndented (object fields) := by
  intro n rest _ fuel hfuel
  cases fields with
  | nil =>
    -- nor has an empty object
    cases fuel with
    | zero => simp [indentedAt] at hfuel
    | succ fuel => rfl
  | cons f more =>
    obtain ⟨k, v⟩ := f
    have htext : (object ((k, v) :: more)).indentedAt n
        = '\x7b' :: indentedFields n ((k, v) :: more) := rfl
    rw [htext, List.length_cons] at hfuel
    cases fuel with
    | zero => omega
    | succ fuel =>
      have hmembers :=
        members_indentedFields n ((k, v) :: more) (by simp) keys h rest fuel (by omega)
      rw [indentedFields_cons, List.append_assoc, members_append (blanks_newline _), quote,
        List.append_assoc, List.cons_append, List.cons_append] at hmembers
      rw [htext, List.cons_append, value, skipSpace_cons (by decide), indentedFields_cons,
        List.append_assoc, quote, List.append_assoc, List.cons_append, List.cons_append]
      simp only [skipSpace_append (blanks_newline _),
        skipSpace_cons (show isSpace '"' = false by decide)]
      show (members fuel ('"' :: _)).map (fun r => (object r.1, r.2)) = _
      rw [hmembers]
      rfl

theorem Plain.readsIndented {v : Json} (h : Plain v) : ReadsIndented v := by
  induction h with
  | null => exact reads_null.indented fun _ => rfl
  -- scalars have one text; arrays and objects are read through their parts
  | bool b => exact (reads_bool b).indented fun _ => rfl
  | integer m => exact (reads_integer m).indented fun _ => rfl
  | text s => exact (reads_text s).indented fun _ => rfl
  | array items hplain ih => exact readsIndented_array items hplain ih
  | object fields keys _ ih => exact readsIndented_object fields keys ih

/-- The indented text of a plain document reads back as the document, whatever blanks follow it. -/
theorem document_indentedAt {v : Json} (h : Plain v) {blanks : List Char}
    (hblanks : Blanks blanks) : document (v.indentedAt 0 ++ blanks) = some v := by
  have hends : NumberEnds blanks := by
    intro c hc
    have hspace := hblanks c (List.mem_of_mem_head? hc)
    simp only [isSpace, Bool.or_eq_true, decide_eq_true_eq] at hspace
    -- no blank goes on with a number
    rcases hspace with ((rfl | rfl) | rfl) | rfl <;> decide
  have hread := h.readsIndented 0 blanks hends (2 * (v.indentedAt 0 ++ blanks).length + 2)
    (by rw [List.length_append]; omega)
  have hrest : skipSpace blanks = [] := by
    have hskip := skipSpace_append hblanks []
    rw [List.append_nil] at hskip
    exact hskip
  rw [document, hread]
  simp only [hrest]
  rfl

end Precis.Json
