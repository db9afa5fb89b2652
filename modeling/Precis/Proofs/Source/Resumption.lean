import Mathlib.Data.List.Perm.Subperm
import Precis.Proofs.Source.Reading

/-!
# Reading on after a crash

A session reads a source in memory that grows, stores its cursor now and then, and may crash at any
time. What was read up to the stored cursor is its log. `Session.exact_run`: at every moment the log
ascends to the stored cursor, is counted by it and misses no item that was there from the start, and
reading on gives exactly the items after the cursor.

The invariant is `Session.Resumable`: the log ends at the stored cursor, and with what was read
since it ends at the pager's own (`Cursor.Ends`). Each event keeps it: a page moves the cursor to
its end (`Cursor.Ends.advance`), storing the cursor takes the longer log for the log, and a crash
goes back to the shorter one.
-/

namespace Precis

/-! ## The log of a cursor -/

/-- The cursor stands at the end of a log: the log ascends to the cursor's position, is counted by
it, and of `items` it holds all that the cursor has passed. -/
structure Cursor.Ends (items log : List Item) (c : Cursor) : Prop where
  ascending : Ascending log
  position_eq : c.position = log.getLast?.map (·.position)
  processed_eq : c.processed = UInt64.ofNat log.length
  complete : ∀ item ∈ items, c.precedes item = false → item ∈ log

namespace Cursor

variable {c : Cursor} {items log source : List Item}

theorem ends_start (items : List Item) : Cursor.start.Ends items [] :=
  ⟨List.Pairwise.nil, rfl, rfl, fun _ _ h => nomatch h⟩

theorem Ends.passed (h : c.Ends items log) {item : Item} (hitem : item ∈ log) :
    c.precedes item = false := by
  rw [precedes_eq_false_iff]
  cases hlast : log.getLast? with
  | none =>
    rw [List.getLast?_eq_none_iff.1 hlast] at hitem
    cases hitem
  | some last =>
    refine ⟨last.position, ?_, not_lt_last h.ascending hlast hitem⟩
    rw [h.position_eq, hlast, Option.map_some]

/-- A page from the front of what comes after the cursor moves it to the end of a longer log. -/
theorem Ends.advance {n : Nat} {last : Item} (h : c.Ends items log) (hsource : Ascending source)
    (hitems : items ⊆ source) (hlast : ((source.filter c.precedes).take n).getLast? = some last) :
    (c.advance ((source.filter c.precedes).take n)).Ends items
      (log ++ (source.filter c.precedes).take n) := by
  have hafter : Ascending (source.filter c.precedes) := hsource.filter _
  have hpage : ∀ item ∈ (source.filter c.precedes).take n, c.precedes item = true :=
    fun item hitem => (List.mem_filter.1 (List.mem_of_mem_take hitem)).2
  refine ⟨?_, ?_, ?_, ?_⟩
  · refine List.pairwise_append.2 ⟨h.ascending, hafter.sublist (List.take_sublist _ _), ?_⟩
    intro a ha b hb
    exact lt_of_precedes (h.passed ha) (hpage b hb)
  · rw [position_advance hlast, List.getLast?_append, hlast]
    rfl
  · rw [processed_advance, h.processed_eq, List.length_append, UInt64.ofNat_add]
  · -- an item that was not passed before is passed with the page
    intro item hitem hpassed
    rw [List.mem_append]
    cases hbefore : c.precedes item with
    | false => exact Or.inl (h.complete item hitem hbefore)
    | true =>
      right
      refine mem_of_not_lt_last hafter (List.take_prefix _ _) hlast
        (List.mem_filter.2 ⟨hitems hitem, hbefore⟩) ?_
      intro hlt
      rw [(precedes_advance_iff hlast c item).2 hlt] at hpassed
      cases hpassed

end Cursor

/-! ## Reading until nothing is left -/

namespace Paging

variable {s t : Paging} {fetch : Cursor → Nat → Except Problem (List Item)}

/-- Reading until no page is left gives these items. -/
inductive Drains (fetch : Cursor → Nat → Except Problem (List Item)) :
    Paging → List Item → Prop where
  | done {s t : Paging} (h : s.read fetch = (.ok none, t)) : Drains fetch s []
  | page {s t : Paging} {page rest : List Item} (h : s.read fetch = (.ok (some page), t))
      (hrest : Drains fetch t rest) : Drains fetch s (page ++ rest)

theorem Drains.unique {xs ys : List Item} (hx : Drains fetch s xs) (hy : Drains fetch s ys) :
    xs = ys := by
  induction hx generalizing ys with
  | done h =>
    -- one source and one pager: both take the same pages
    cases hy with
    | done => rfl
    | page h' => cases h.symm.trans h'
  | page h _ ih =>
    cases hy with
    | done h' => cases h.symm.trans h'
    | page h' hrest =>
      cases h.symm.trans h'
      rw [ih hrest]

/-- Without a limit to the run, a source in memory gives all its items after the cursor. -/
theorem drains_source {source : Source} (hsource : Ascending source.items)
    (hpage : 0 < s.pager.settings.pageSize) (hmax : s.pager.settings.maxCount = none) :
    Drains (fun after limit => .ok (source.fetch after limit)) s
      (source.items.filter s.pager.cursor.precedes) := by
  -- by induction on the number of items that are left
  generalize hleft : (source.items.filter s.pager.cursor.precedes).length = left
  induction left using Nat.strongRecOn generalizing s with
  | ind left ih =>
    have hlimit : s.pager.limit ≠ 0 := by
      rw [Pager.limit, hmax]
      exact Nat.ne_of_gt (UInt64.lt_iff_toNat_lt.1 hpage)
    have hread := read_source hsource hlimit rfl
    generalize htake : (source.items.filter s.pager.cursor.precedes).take s.pager.limit =
      page at hread
    cases hlast : page.getLast? with
    | none =>
      -- nothing is after the cursor
      rw [List.getLast?_eq_none_iff] at hlast
      rw [if_pos hlast] at hread
      rw [hlast, List.take_eq_nil_iff] at htake
      rw [htake.resolve_left hlimit]
      exact .done hread
    | some last =>
      -- a page is read, and fewer items are after the cursor
      have hne : page ≠ [] := List.ne_nil_of_mem (List.mem_of_getLast? hlast)
      rw [if_neg hne] at hread
      have hsplit : page ++ source.items.filter (s.turned page).pager.cursor.precedes
          = source.items.filter s.pager.cursor.precedes := by
        have hmoved := Cursor.filter_precedes_advance hsource (htake ▸ hlast)
        rw [htake] at hmoved
        rw [turned, hmoved, ← htake, List.take_append_drop]
      have hshorter :
          (source.items.filter (s.turned page).pager.cursor.precedes).length < left := by
        have hlength := congrArg List.length hsplit
        have hpos := List.length_pos_iff.2 hne
        rw [List.length_append] at hlength
        omega
      rw [← hsplit]
      exact .page hread (ih _ hshorter hpage hmax rfl)

end Paging

/-! ## Sessions -/

/-- A source in memory, a pager that reads it, and what was read. -/
structure Session where
  source : Source
  paging : Paging
  /-- Read since the cursor was stored or the pager was opened. -/
  pending : List Item := []
  /-- The log: read before the cursor was stored. -/
  committed : List Item := []

namespace Session

/-- What can happen in a session. -/
inductive Event where
  | read
  | update
  /-- The pager is lost, and another one is opened on the same store. -/
  | crash
  | insert (item : Item)

/-- How the source answers. -/
def fetch (s : Session) : Cursor → Nat → Except Problem (List Item) :=
  fun after limit => .ok (s.source.fetch after limit)

/-- The session after an event. -/
def step (s : Session) : Event → Session
  | .read =>
    let (result, paging) := s.paging.read s.fetch
    { s with paging, pending := s.pending ++ (Paging.returned result).flatten }
  | .update =>
    { s with
      paging := (s.paging.update none).2
      pending := []
      committed := s.committed ++ s.pending }
  | .crash =>
    let lost := s.paging.restart s.paging.pager.name s.paging.pager.settings
    { s with paging := (lost.reopen none).2, pending := [] }
  | .insert item => { s with source := s.source.insert item }

/-- The session after events, the first one first. -/
def run (s : Session) (events : List Event) : Session := events.foldl step s

/-- A pager that was just opened on an empty store, and a source with these items. -/
def start (items : List Item) (name : String) (settings : ReaderSettings) : Session :=
  { source := .ofList items
    paging := (Paging.reopen none { pager := { name, settings }, store := .empty }).2 }

/-- The items that are inserted by events. -/
def inserted : List Event → List Item
  | [] => []
  | .insert item :: events => item :: inserted events
  | _ :: events => inserted events

/-- The pager of a session without a limit to its run. -/
def unlimited (s : Session) : Paging :=
  { s.paging with pager := { s.paging.pager with
      settings := { s.paging.pager.settings with maxCount := none } } }

/-- The source holds, in ascending order, the items it began with and those that were inserted. The
log ascends, ends at the stored cursor, is counted by it, and misses none of the first `items` up to
it; and reading on until nothing is left gives the items of the source after the pager's cursor. -/
structure Exact (items added : List Item) (s : Session) : Prop where
  source_ascending : Ascending s.source.items
  source_perm : s.source.items.Perm (items ++ added)
  ascending : Ascending s.committed
  nodup : s.committed.Nodup
  stored : ∃ cursor, s.paging.storedCursor = some cursor ∧
    cursor.position = s.committed.getLast?.map (·.position) ∧
    cursor.processed = UInt64.ofNat s.committed.length ∧
    (s.source.items.length < UInt64.size → cursor.processed.toNat = s.committed.length) ∧
    ∀ item ∈ items, cursor.precedes item = false → item ∈ s.committed
  drains : ∀ rest, Paging.Drains s.fetch s.unlimited rest ↔
    rest = s.source.items.filter s.paging.pager.cursor.precedes

/-! ## The invariant of a session -/

/-- The log ends at the stored cursor, and with what was read since it ends at the pager's; all of
it is in the source. -/
structure Resumable (items : List Item) (s : Session) : Prop where
  source_ascending : Ascending s.source.items
  items_subset : items ⊆ s.source.items
  log_subset : s.committed ++ s.pending ⊆ s.source.items
  pageSize_pos : 0 < s.paging.pager.settings.pageSize
  current : s.paging.pager.cursor.Ends items (s.committed ++ s.pending)
  stored : ∃ cursor, s.paging.storedCursor = some cursor ∧ cursor.Ends items s.committed

variable {s : Session} {items : List Item}

theorem resumable_start {name : String} {settings : ReaderSettings}
    (hpage : 0 < settings.pageSize) (hpositions : (items.map (·.position)).Nodup) :
    (start items name settings).Resumable items := by
  obtain ⟨hascending, hperm⟩ := Source.ofList_spec hpositions
  refine ⟨hascending, hperm.symm.subset, ?_, hpage, Cursor.ends_start items, ?_⟩
  · exact List.nil_subset _
  · exact ⟨Cursor.start, rfl, Cursor.ends_start items⟩

/-- Reading gives nothing, or a page from the front of what comes after the cursor. -/
theorem step_read (hsource : Ascending s.source.items) :
    s.step .read = s ∨ ∃ n last,
      ((s.source.items.filter s.paging.pager.cursor.precedes).take n).getLast? = some last ∧
      s.step .read = { s with
        paging := s.paging.turned ((s.source.items.filter s.paging.pager.cursor.precedes).take n)
        pending :=
          s.pending ++ (s.source.items.filter s.paging.pager.cursor.precedes).take n } := by
  have hnothing : s.paging.read s.fetch = (.ok none, s.paging) → s.step .read = s := by
    intro hread
    rw [step, hread]
    dsimp only [Paging.returned]
    rw [List.flatten_nil, List.append_nil]
  by_cases hlimit : s.paging.pager.limit = 0
  · -- the run has read as much as it may
    left
    apply hnothing
    rw [Paging.read, Pager.read, if_pos hlimit]
  have hread : s.paging.read s.fetch = _ := Paging.read_source hsource hlimit rfl
  cases hlast : ((s.source.items.filter s.paging.pager.cursor.precedes).take
      s.paging.pager.limit).getLast? with
  | none =>
    left
    apply hnothing
    rw [hread, if_pos (List.getLast?_eq_none_iff.1 hlast)]
  | some last =>
    right
    refine ⟨_, last, hlast, ?_⟩
    rw [step, hread, if_neg (List.ne_nil_of_mem (List.mem_of_getLast? hlast))]
    dsimp only [Paging.returned]
    rw [List.flatten_singleton]

theorem Resumable.read (h : s.Resumable items) : (s.step .read).Resumable items := by
  rcases step_read h.source_ascending with hstep | ⟨n, last, hlast, hstep⟩
  · rw [hstep]
    exact h
  · rw [hstep]
    refine ⟨h.source_ascending, h.items_subset, ?_, h.pageSize_pos, ?_, h.stored⟩
    · dsimp only
      rw [← List.append_assoc]
      refine List.append_subset.2 ⟨h.log_subset, ?_⟩
      exact List.Subset.trans (List.take_subset _ _) (List.filter_subset_self _)
    · dsimp only
      rw [← List.append_assoc]
      exact h.current.advance h.source_ascending h.items_subset hlast

/-- The log is longer, and ends at the cursor that is stored now. -/
theorem Resumable.update (h : s.Resumable items) : (s.step .update).Resumable items := by
  have hstored : (s.step .update).paging.storedCursor = some s.paging.pager.cursor := by
    apply Paging.storedCursor_of_stored
    exact (Table.get?_insert _ _ _ _).trans (if_pos rfl)
  refine ⟨h.source_ascending, h.items_subset, ?_, h.pageSize_pos, ?_, ?_⟩
  · dsimp only [step]
    rw [List.append_nil]
    exact h.log_subset
  · dsimp only [step]
    rw [List.append_nil]
    exact h.current
  · exact ⟨_, hstored, h.current⟩

/-- The log stays, and the new pager stands at its end. -/
theorem Resumable.crash (h : s.Resumable items) : (s.step .crash).Resumable items := by
  obtain ⟨cursor, hcursor, hends⟩ := h.stored
  have hopen := Paging.reopen_of_storedCursor
    (s := s.paging.restart s.paging.pager.name s.paging.pager.settings) hcursor
  have hstep : s.step .crash = { s with
      paging := (s.paging.restart s.paging.pager.name s.paging.pager.settings).openedAt cursor
      pending := [] } := by
    rw [step, hopen]
  rw [hstep]
  refine ⟨h.source_ascending, h.items_subset, ?_, h.pageSize_pos, ?_, cursor, hcursor, hends⟩
  · dsimp only
    rw [List.append_nil]
    exact List.Subset.trans (List.subset_append_left _ _) h.log_subset
  · dsimp only
    rw [List.append_nil]
    exact hends

/-- An item may be inserted anywhere: neither cursor nor log change. -/
theorem Resumable.insert {item : Item} (h : s.Resumable items)
    (hnew : ∀ other ∈ s.source.items, other.position ≠ item.position) :
    (s.step (.insert item)).Resumable items := by
  have hsubset : s.source.items ⊆ (s.source.insert item).items := fun other hother =>
    (Source.insertItem_perm item s.source.items).mem_iff.2 (List.mem_cons_of_mem item hother)
  exact ⟨Source.ascending_insertItem h.source_ascending hnew,
    List.Subset.trans h.items_subset hsubset, List.Subset.trans h.log_subset hsubset,
    h.pageSize_pos, h.current, h.stored⟩

/-- What a run keeps, as long as each item that is inserted has a place of its own. -/
theorem Resumable.run {events : List Event} (h : s.Resumable items)
    (hpositions : ((s.source.items ++ inserted events).map (·.position)).Nodup) :
    (s.run events).Resumable items := by
  induction events generalizing s with
  | nil => exact h
  | cons event events ih =>
    rw [Session.run, List.foldl_cons]
    cases event with
    | read => exact ih h.read hpositions
    | update => exact ih h.update hpositions
    | crash => exact ih h.crash hpositions
    | insert item =>
      obtain ⟨hnew, hrest⟩ := Source.nodup_insert hpositions
      exact ih (h.insert hnew) hrest

/-- Only insertions change the source. -/
theorem run_source_perm (s : Session) (events : List Event) :
    (s.run events).source.items.Perm (s.source.items ++ inserted events) := by
  induction events generalizing s with
  | nil =>
    rw [inserted, List.append_nil]
    exact List.Perm.refl _
  | cons event events ih =>
    rw [Session.run, List.foldl_cons]
    cases event with
    | read => exact ih _
    | update => exact ih _
    | crash => exact ih _
    | insert item =>
      exact (ih _).trans (Source.insert_append_perm s.source item (inserted events))

theorem Resumable.exact {added : List Item} (h : s.Resumable items)
    (hperm : s.source.items.Perm (items ++ added)) : s.Exact items added := by
  obtain ⟨cursor, hcursor, hends⟩ := h.stored
  have hnodup : s.committed.Nodup := by
    refine hends.ascending.imp ?_
    rintro a _ hlt rfl
    exact Position.lt_irrefl _ hlt
  -- the log is no longer than the source, so its length is a word
  have hlength : s.committed.length ≤ s.source.items.length :=
    (List.subperm_of_subset hnodup
      (List.Subset.trans (List.subset_append_left _ _) h.log_subset)).length_le
  have hdrains : Paging.Drains s.fetch s.unlimited
      (s.source.items.filter s.paging.pager.cursor.precedes) :=
    Paging.drains_source (s := s.unlimited) h.source_ascending h.pageSize_pos rfl
  refine ⟨h.source_ascending, hperm, hends.ascending, hnodup, ?_, ?_⟩
  · refine ⟨cursor, hcursor, hends.position_eq, hends.processed_eq, ?_, hends.complete⟩
    intro hsmall
    rw [UInt64.size] at hsmall
    rw [hends.processed_eq, UInt64.toNat_ofNat']
    omega
  · intro rest
    constructor
    · intro hrest
      exact hrest.unique hdrains
    · rintro rfl
      exact hdrains

/-- However reading, storing, crashes and insertions follow one another, the log is exact, and
reading on gives what comes after the cursor. -/
theorem exact_run {name : String} {settings : ReaderSettings} {events : List Event}
    (hpage : 0 < settings.pageSize)
    (hpositions : ((items ++ inserted events).map (·.position)).Nodup) :
    ((start items name settings).run events).Exact items (inserted events) := by
  have hitems : (items.map (·.position)).Nodup := by
    rw [List.map_append] at hpositions
    exact (List.nodup_append.1 hpositions).1
  have hperm := (Source.ofList_spec hitems).2.append_right (inserted events)
  refine ((resumable_start hpage hitems).run ?_).exact ((run_source_perm _ events).trans hperm)
  exact (hperm.map (·.position)).nodup_iff.2 hpositions

/-! ## A session with a crash -/

namespace Crashed

def post (id : Int64) : Item :=
  { id, title := "a post", content := "about it", timestamp := .epoch }

/-- Three posts of one moment. -/
def posts : List Item := [post 3, post 1, post 5]

/-- Three posts may be read in one run, two at a time. -/
def settings : ReaderSettings := { pageSize := 2, maxCount := some 3 }

/-- A post is inserted before the stored cursor and another one after it; the second page is read
twice, since the first time its cursor was not stored. -/
def events : List Event :=
  [.read, .update, .insert (post 2), .insert (post 4), .read, .crash, .read, .update]

end Crashed

open Crashed in
theorem exact_run_crashed :
    0 < settings.pageSize ∧ ((posts ++ inserted events).map (·.position)).Nodup ∧
      ((start posts "daily" settings).run events).Exact posts (inserted events) := by
  have hpage : 0 < settings.pageSize := by decide
  have hpositions : ((posts ++ inserted events).map (·.position)).Nodup := by decide
  exact ⟨hpage, hpositions, exact_run hpage hpositions⟩

open Crashed in
example : ((start posts "daily" settings).run events).committed =
    [post 1, post 3, post 4, post 5] := by
  decide +kernel

end Session

end Precis
