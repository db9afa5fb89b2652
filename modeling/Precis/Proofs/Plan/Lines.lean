import Precis.Plan.Basic

/-!
# Items by line

A text is made of lines in one way only (`breaksInto_iff`): each ends with a line feed, with or
without a return before it, but for the last one, which may just stop. Of these lines those that are
not blank are read as items, in order; or there is a first one that holds none, and its place among
all lines, blank ones included, is what the reader answers with (`readItems_cases`).
-/

namespace Precis.Plan

/-! ## Lines -/

/-- The text consists of these lines and their ends. -/
inductive BreaksInto : List Char → List (List Char) → Prop where
  | nothing : BreaksInto [] []
  /-- The last line, without an end. -/
  | last {line : List Char} (hne : line ≠ []) (hline : '\n' ∉ line) : BreaksInto line [line]
  | feed {line rest : List Char} {lines : List (List Char)} (hline : '\n' ∉ line)
    (hreturn : line.getLast? ≠ some '\r') (h : BreaksInto rest lines) :
    BreaksInto (line ++ '\n' :: rest) (line :: lines)
  | returnFeed {line rest : List Char} {lines : List (List Char)} (hline : '\n' ∉ line)
    (h : BreaksInto rest lines) : BreaksInto (line ++ '\r' :: '\n' :: rest) (line :: lines)

/-- What is read up to a line feed is collected in reverse. -/
theorem linesAfter_append {line : List Char} (hline : '\n' ∉ line) (begun rest : List Char) :
    linesAfter begun (line ++ rest) = linesAfter (line.reverse ++ begun) rest := by
  induction line generalizing begun with
  | nil => rfl
  | cons c line ih =>
    rw [List.mem_cons, not_or] at hline
    rw [List.cons_append, linesAfter, if_neg (Ne.symm hline.1), ih hline.2, List.reverse_cons,
      List.append_assoc, List.singleton_append]

theorem linesAfter_feed (begun rest : List Char) :
    linesAfter begun ('\n' :: rest) = lineOf begun :: linesAfter [] rest := by
  rw [linesAfter, if_pos rfl]

/-- Only a return at the end of a line is dropped. -/
theorem lineOf_reverse {line : List Char} (h : line.getLast? ≠ some '\r') :
    lineOf line.reverse = line := by
  rw [lineOf]
  · exact List.reverse_reverse line
  · rintro begun hbegun
    rw [List.getLast?_eq_head?_reverse, hbegun] at h
    exact h rfl

theorem BreaksInto.linesAfter_eq {text : List Char} {lines : List (List Char)}
    (h : BreaksInto text lines) : linesAfter [] text = lines := by
  induction h with
  | nothing => rfl
  | @last line hne hline =>
    have hread := linesAfter_append hline [] []
    rw [List.append_nil, List.append_nil] at hread
    rw [hread, linesAfter, List.isEmpty_reverse, if_neg (by simpa using hne), List.reverse_reverse]
  | feed hline hreturn _ ih =>
    rw [linesAfter_append hline, List.append_nil, linesAfter_feed, lineOf_reverse hreturn, ih]
  | returnFeed hline _ ih =>
    rw [linesAfter_append hline, List.append_nil, linesAfter, if_neg (by decide), linesAfter_feed,
      lineOf, List.reverse_reverse, ih]

theorem breaksInto_linesAfter (begun : List Char) (hbegun : '\n' ∉ begun) (text : List Char) :
    BreaksInto (begun.reverse ++ text) (linesAfter begun text) := by
  induction text generalizing begun with
  | nil =>
    rw [linesAfter, List.append_nil]
    cases begun with
    | nil => exact .nothing
    | cons c begun => exact .last (by simp) (by rwa [List.mem_reverse])
  | cons c rest ih =>
    by_cases hc : c = '\n'
    · subst hc
      have hrest : BreaksInto rest (linesAfter [] rest) := ih [] (by simp)
      rw [linesAfter_feed]
      unfold lineOf
      split
      · -- a return stands before the line feed
        rw [List.mem_cons, not_or] at hbegun
        rw [List.reverse_cons, List.append_assoc, List.singleton_append]
        exact .returnFeed (by rw [List.mem_reverse]; exact hbegun.2) hrest
      · rename_i hreturn
        refine .feed (by rwa [List.mem_reverse]) ?_ hrest
        rw [List.getLast?_reverse]
        intro hhead
        obtain ⟨line, hline⟩ := List.head?_eq_some_iff.1 hhead
        exact hreturn line hline
    · have hnext : '\n' ∉ c :: begun := by
        rw [List.mem_cons, not_or]
        exact ⟨Ne.symm hc, hbegun⟩
      have hmore := ih (c :: begun) hnext
      rw [List.reverse_cons, List.append_assoc, List.singleton_append] at hmore
      rw [linesAfter, if_neg hc]
      exact hmore

/-- The lines of a text are the only ones that it consists of. -/
theorem breaksInto_iff (s : String) (found : List (List Char)) :
    BreaksInto s.toList found ↔ found = lines s := by
  constructor
  · intro h
    exact h.linesAfter_eq.symm
  · rintro rfl
    exact breaksInto_linesAfter [] (by simp) s.toList

/-- A return that ends no line stays. -/
example : lines "a\r\n\nb\rc" = [['a'], [], ['b', '\r', 'c']] := by decide +kernel

/-! ## Items -/

/-- Is not blank. -/
def isFilled (line : List Char) : Bool := !line.all Text.isBlank

/-- The line, of this number counted from one, is the first that is filled and holds no item. -/
def FirstUnreadable (lines : List (List Char)) (number : Nat) (line : List Char) : Prop :=
  ∃ before after, lines = before ++ line :: after ∧ number = before.length + 1 ∧
    isFilled line = true ∧ itemOf? line = none ∧
    ∀ l ∈ before, isFilled l = true → (itemOf? l).isSome = true

/-- The filled lines with their numbers, counted on from `number`. -/
def numbered (number : Nat) (lines : List (List Char)) : List (Nat × List Char) :=
  (lines.zipIdx number).filterMap fun l => if l.1.all Text.isBlank then none else some (l.2, l.1)

theorem numbered_cons_of_blank {line : List Char} (h : isFilled line = false) (number : Nat)
    (lines : List (List Char)) : numbered number (line :: lines) = numbered (number + 1) lines := by
  rw [isFilled, Bool.not_eq_false'] at h
  rw [numbered, List.zipIdx_cons, List.filterMap_cons, if_pos h]
  rfl

theorem numbered_cons_of_filled {line : List Char} (h : isFilled line = true) (number : Nat)
    (lines : List (List Char)) :
    numbered number (line :: lines) = (number, line) :: numbered (number + 1) lines := by
  rw [isFilled, Bool.not_eq_true'] at h
  rw [numbered, List.zipIdx_cons, List.filterMap_cons, if_neg (by simp [h])]
  rfl

/-- A line that is no obstacle to the reader. -/
theorem FirstUnreadable.cons {lines : List (List Char)} {number : Nat} {bad : List Char}
    (h : FirstUnreadable lines number bad) {line : List Char}
    (hline : isFilled line = true → (itemOf? line).isSome = true) :
    FirstUnreadable (line :: lines) (number + 1) bad := by
  obtain ⟨before, after, rfl, rfl, hbad⟩ := h
  refine ⟨line :: before, after, rfl, rfl, hbad.1, hbad.2.1, ?_⟩
  rw [List.forall_mem_cons]
  exact ⟨hline, hbad.2.2⟩

/-- Either each filled line is read as its item, or the reader stops at the first that holds
none. -/
theorem readLines_numbered (lines : List (List Char)) (number : Nat) :
    (∃ items, readLines (numbered (number + 1) lines) = .ok items ∧
        (lines.filter isFilled).map itemOf? = items.map some) ∨
      ∃ place bad, readLines (numbered (number + 1) lines) = .error (number + place, bad) ∧
        FirstUnreadable lines place bad := by
  induction lines generalizing number with
  | nil => exact Or.inl ⟨[], rfl, rfl⟩
  | cons line lines ih =>
    cases hfilled : isFilled line with
    | false =>
      -- a blank line counts as a line and is passed over
      rw [numbered_cons_of_blank hfilled, List.filter_cons_of_neg (by simp [hfilled])]
      rcases ih (number + 1) with hread | ⟨place, bad, hread, hfirst⟩
      · exact Or.inl hread
      · refine Or.inr ⟨place + 1, bad, ?_, hfirst.cons (by simp [hfilled])⟩
        rw [hread, Nat.add_assoc, Nat.add_comm 1 place]
    | true =>
      rw [numbered_cons_of_filled hfilled, List.filter_cons_of_pos hfilled, readLines]
      cases hitem : itemOf? line with
      | none => exact Or.inr ⟨1, line, rfl, [], lines, rfl, rfl, hfilled, hitem, by simp⟩
      | some item =>
        rcases ih (number + 1) with ⟨items, hread, hitems⟩ | ⟨place, bad, hread, hfirst⟩
        · refine Or.inl ⟨item :: items, ?_, ?_⟩
          · simp only [hread]
            rfl
          · rw [List.map_cons, List.map_cons, hitem, hitems]
        · refine Or.inr ⟨place + 1, bad, ?_, hfirst.cons (by simp [hitem])⟩
          simp only [hread, Nat.add_assoc, Nat.add_comm 1 place]
          rfl

theorem FirstUnreadable.mem {lines : List (List Char)} {number : Nat} {line : List Char}
    (h : FirstUnreadable lines number line) :
    line ∈ lines.filter isFilled ∧ itemOf? line = none := by
  obtain ⟨before, after, rfl, _, hfilled, hnone, _⟩ := h
  refine ⟨?_, hnone⟩
  rw [List.mem_filter]
  exact ⟨List.mem_append_right _ List.mem_cons_self, hfilled⟩

/-- Lines that were read each hold an item. -/
theorem isSome_of_read {filled : List (List Char)} {items : List Item}
    (h : filled.map itemOf? = items.map some) : ∀ line ∈ filled, (itemOf? line).isSome = true := by
  intro line hline
  have hmem : itemOf? line ∈ items.map some := by
    rw [← h]
    exact List.mem_map_of_mem hline
  obtain ⟨item, _, hitem⟩ := List.mem_map.1 hmem
  rw [← hitem]
  rfl

/-- The items are known from the lines. -/
theorem items_unique {filled : List (List Char)} {items others : List Item}
    (h : filled.map itemOf? = items.map some) (h' : filled.map itemOf? = others.map some) :
    items = others :=
  (List.map_inj_right fun _ _ => Option.some.inj).1 (h.symm.trans h')

/-- What the reader makes of a file. -/
theorem readItems_cases (s : String) :
    (∃ items, readItems s = .ok items ∧ ((lines s).filter isFilled).map itemOf? = items.map some) ∨
      ∃ number line, readItems s = .error (number, line) ∧
        FirstUnreadable (lines s) number line := by
  rcases readLines_numbered (lines s) 0 with hread | ⟨place, bad, hread, hfirst⟩
  · exact Or.inl hread
  · refine Or.inr ⟨place, bad, hread.trans ?_, hfirst⟩
    rw [Nat.zero_add]

end Precis.Plan
