import Precis.Proofs.Source.Checkpoint
import Precis.Proofs.Source.Order
import Precis.Source.Paging

/-!
# What a pager does

One lemma for each operation of a pager with its store says all that it can do: the pager is opened
at the start or at the stored cursor (`reopen_cases`), a page is read as far as the limit goes and
only in order (`read_cases`), and nothing changes when an operation fails.
-/

namespace Precis

namespace Pager

variable {p q : Pager}

theorem opened_cases {blob : Option String} (h : p.opened blob = .ok q) :
    ∃ cursor, q = { p with cursor, pagesRead := 0, readThisRun := 0 } ∧
      (blob = none ∧ cursor = Cursor.start ∨
        ∃ text, blob = some text ∧ Cursor.ofCheckpoint? text = some cursor) := by
  unfold opened at h
  cases blob with
  | none =>
    cases h
    exact ⟨_, rfl, Or.inl ⟨rfl, rfl⟩⟩
  | some text =>
    dsimp only at h
    cases hcursor : Cursor.ofCheckpoint? text with
    | none =>
      rw [hcursor] at h
      cases h
    | some cursor =>
      rw [hcursor] at h
      cases h
      exact ⟨cursor, rfl, Or.inr ⟨text, rfl, hcursor⟩⟩

/-- A page is in order when it is ascending and all of it comes after the cursor. -/
theorem inOrder_iff {page : List Item} : p.inOrder page = true ↔
    Ascending page ∧ ∀ item ∈ page, p.cursor.precedes item = true := by
  unfold inOrder
  rw [Bool.and_eq_true, isAscending_iff, and_comm]
  cases page with
  | nil => simp
  | cons first rest =>
    constructor
    · -- the first item comes after the cursor, and the others after the first
      rintro ⟨hascending, hfirst⟩
      refine ⟨hascending, ?_⟩
      rw [List.forall_mem_cons]
      refine ⟨hfirst, ?_⟩
      intro item hitem
      exact Cursor.precedes_of_lt hfirst ((List.pairwise_cons.1 hascending).1 item hitem)
    · rintro ⟨hascending, hprecedes⟩
      exact ⟨hascending, hprecedes first List.mem_cons_self⟩

/-- A page that is accepted is the answer up to the limit, and in order. -/
theorem accept_cases {answer : List Item} {page? : Option (List Item)}
    (h : p.accept answer = .ok (page?, q)) :
    (answer.take p.limit = [] ∧ page? = none ∧ q = p) ∨
      (∃ last, (answer.take p.limit).getLast? = some last ∧ page? = some (answer.take p.limit) ∧
        p.inOrder (answer.take p.limit) = true ∧
        q = { p with
          cursor := p.cursor.advance (answer.take p.limit)
          pagesRead := p.pagesRead + 1
          readThisRun := p.readThisRun + (answer.take p.limit).length }) := by
  rw [accept] at h
  generalize answer.take p.limit = page at h ⊢
  -- a page has a last item unless it is empty
  cases hlast : page.getLast? with
  | none =>
    left
    rw [List.getLast?_eq_none_iff] at hlast
    rw [hlast] at h
    cases h
    exact ⟨hlast, rfl, rfl⟩
  | some last =>
    right
    have hne : page.isEmpty = false := by
      rw [List.isEmpty_eq_false_iff]
      rintro rfl
      cases hlast
    rw [hne] at h
    simp only [Bool.false_eq_true, if_false] at h
    -- the page is refused unless it is in order
    split at h
    · rename_i horder
      cases h
      exact ⟨last, rfl, rfl, horder, rfl⟩
    · cases h

end Pager

namespace Paging

variable {s t : Paging}

/-- The pager stands at a cursor, with nothing read in this run. -/
def openedAt (cursor : Cursor) (s : Paging) : Paging :=
  { s with pager := { s.pager with cursor, pagesRead := 0, readThisRun := 0 } }

/-- The pager after a page. -/
def turned (page : List Item) (s : Paging) : Paging :=
  { s with pager := { s.pager with
    cursor := s.pager.cursor.advance page
    pagesRead := s.pager.pagesRead + 1
    readThisRun := s.pager.readThisRun + page.length } }

/-- The cursor is stored. -/
def saved (s : Paging) : Paging :=
  { s with store := s.store.insert s.pager.key s.pager.cursor.checkpoint }

/-- The pager is opened at the start, or at the stored cursor. -/
theorem reopen_cases {result : Except Problem Unit} (h : s.reopen none = (result, t)) :
    (∃ problem, result = .error problem ∧ t = s) ∨
      ∃ cursor, result = .ok () ∧ t = s.openedAt cursor ∧
        (s.stored = none ∧ cursor = Cursor.start ∨
          ∃ text, s.stored = some text ∧ Cursor.ofCheckpoint? text = some cursor) := by
  rw [reopen] at h
  cases hopened : s.pager.opened s.stored with
  | error problem =>
    rw [hopened] at h
    cases h
    exact Or.inl ⟨problem, rfl, rfl⟩
  | ok pager =>
    rw [hopened] at h
    cases h
    obtain ⟨cursor, rfl, hcursor⟩ := Pager.opened_cases hopened
    exact Or.inr ⟨cursor, rfl, rfl, hcursor⟩

/-- The cursor at which a pager is opened: the start when none is stored. -/
def storedCursor (s : Paging) : Option Cursor :=
  match s.stored with
  | none => some Cursor.start
  | some text => Cursor.ofCheckpoint? text

/-- A cursor that was stored is found again. -/
theorem storedCursor_of_stored {cursor : Cursor} (h : s.stored = some cursor.checkpoint) :
    s.storedCursor = some cursor := by
  rw [storedCursor, h]
  exact Cursor.ofCheckpoint?_checkpoint cursor

theorem storedCursor_saved (s : Paging) : s.saved.storedCursor = some s.pager.cursor := by
  apply storedCursor_of_stored
  rw [stored]
  exact (Table.get?_insert _ _ _ _).trans (if_pos rfl)

theorem reopen_of_storedCursor {cursor : Cursor} (h : s.storedCursor = some cursor) :
    s.reopen none = (.ok (), s.openedAt cursor) := by
  rw [storedCursor] at h
  rw [reopen, Pager.opened.eq_def]
  -- nothing stored means the start, and a stored text is read
  cases hstored : s.stored with
  | none =>
    rw [hstored] at h
    cases h
    rfl
  | some text =>
    simp only [hstored] at h
    simp only [h]
    rfl

/-- A page is the answer of the source up to the limit, in order, and moves the cursor to its
end. -/
theorem read_cases {answer : List Item} {result : Except Problem (Option (List Item))}
    (hlimit : s.pager.limit ≠ 0) (h : s.read (fun _ _ => .ok answer) = (result, t)) :
    (∃ problem, result = .error problem ∧ t = s) ∨
      (answer.take s.pager.limit = [] ∧ result = .ok none ∧ t = s) ∨
      ∃ last, (answer.take s.pager.limit).getLast? = some last ∧
        result = .ok (some (answer.take s.pager.limit)) ∧
        s.pager.inOrder (answer.take s.pager.limit) = true ∧
        t = s.turned (answer.take s.pager.limit) := by
  rw [read, Pager.read, if_neg hlimit] at h
  dsimp only at h
  cases haccept : s.pager.accept answer with
  | error problem =>
    rw [haccept] at h
    cases h
    exact Or.inl ⟨problem, rfl, rfl⟩
  | ok r =>
    obtain ⟨page?, pager⟩ := r
    rw [haccept] at h
    cases h
    rcases Pager.accept_cases haccept with ⟨hnil, rfl, rfl⟩ | ⟨last, hlast, rfl, horder, rfl⟩
    · exact Or.inr (Or.inl ⟨hnil, rfl, rfl⟩)
    · exact Or.inr (Or.inr ⟨last, hlast, rfl, horder, rfl⟩)

/-- The page in what `read` gives, if there is one. -/
def returned : Except Problem (Option (List Item)) → List (List Item)
  | .error _ => []
  | .ok none => []
  | .ok (some page) => [page]

/-- Whatever a source answers, a page that is read from it has items, no more than the limit, and is
in order. -/
theorem read_outcome {fetch : Cursor → Nat → Except Problem (List Item)}
    {result : Except Problem (Option (List Item))} (h : s.read fetch = (result, t)) :
    (∃ problem, result = .error problem ∧ t = s) ∨ (result = .ok none ∧ t = s) ∨
      ∃ page last, page.getLast? = some last ∧ page.length ≤ s.pager.limit ∧
        result = .ok (some page) ∧ s.pager.inOrder page = true ∧ t = s.turned page := by
  by_cases hlimit : s.pager.limit = 0
  · -- nothing may be read any more, so the source is not asked
    rw [read, Pager.read, if_pos hlimit] at h
    cases h
    exact Or.inr (Or.inl ⟨rfl, rfl⟩)
  cases hfetch : fetch s.pager.cursor s.pager.limit with
  | error problem =>
    rw [read, Pager.read, if_neg hlimit, hfetch] at h
    cases h
    exact Or.inl ⟨problem, rfl, rfl⟩
  | ok answer =>
    have hread : s.read (fun _ _ => .ok answer) = (result, t) := by
      rw [read, Pager.read, if_neg hlimit] at h ⊢
      rw [hfetch] at h
      exact h
    rcases read_cases hlimit hread with hfail | ⟨_, hnone, rfl⟩ | ⟨last, hlast, hpage, horder, rfl⟩
    · exact Or.inl hfail
    · exact Or.inr (Or.inl ⟨hnone, rfl⟩)
    · exact Or.inr (Or.inr ⟨_, last, hlast, List.length_take_le _ _, hpage, horder, rfl⟩)

/-- A page of a source in memory is made of its first items after the cursor. -/
theorem read_source {source : Source} (hsource : Ascending source.items)
    (hlimit : s.pager.limit ≠ 0) {page : List Item}
    (hpage : page = (source.items.filter s.pager.cursor.precedes).take s.pager.limit) :
    s.read (fun after limit => .ok (source.fetch after limit)) =
      if page = [] then (.ok none, s) else (.ok (some page), s.turned page) := by
  have htake : (source.fetch s.pager.cursor s.pager.limit).take s.pager.limit = page := by
    rw [Source.fetch, List.take_take, Nat.min_self, hpage]
  have horder : s.pager.inOrder page = true := by
    refine Pager.inOrder_iff.2 ⟨?_, ?_⟩
    · rw [hpage]
      exact (hsource.filter _).sublist (List.take_sublist _ _)
    · intro item hitem
      rw [hpage] at hitem
      exact (List.mem_filter.1 (List.mem_of_mem_take hitem)).2
  rw [read, Pager.read, if_neg hlimit]
  dsimp only
  rw [Pager.accept, htake]
  -- an empty page is the end of the source
  cases page with
  | nil => rfl
  | cons first rest =>
    simp only [List.isEmpty_cons, Bool.false_eq_true, if_false, horder, if_true, List.cons_ne_nil]
    rfl

end Paging

end Precis
