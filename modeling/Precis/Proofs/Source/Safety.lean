import Precis.Proofs.Source.Reading

/-!
# Reading a source that may answer anything

From one opening of a pager to the next its pages are not empty, no longer than they may be,
ascending and after the cursor that was opened, and together no more than a run may read, whatever
the source answers (`Paging.reads_safe`). A call that fails changes nothing (`Paging.atomic`).

The invariant of a run is `Window`: the cursor has passed all items that were returned, and stands
before no item that the opened cursor had passed. A page that is read keeps it (`Window.turned`),
and so does storing the cursor.
-/

namespace Precis

/-! ## The limit of a page -/

namespace Pager

theorem limit_le_pageSize (p : Pager) : p.limit ≤ p.settings.pageSize.toNat := by
  rw [limit]
  split
  · exact Nat.le_refl _
  · exact Nat.min_le_left _ _

theorem limit_le_of_maxCount {p : Pager} {most : UInt64} (h : p.settings.maxCount = some most) :
    p.limit ≤ most.toNat - p.readThisRun := by
  rw [limit, h]
  exact Nat.min_le_right _ _

end Pager

namespace Paging

variable {s t opened : Paging} {pages : List (List Item)} {page : List Item}

/-! ## Failing calls -/

/-- A call that fails leaves the pager, its cursor and its counters, and the store as they were. -/
structure Atomic (s : Paging) : Prop where
  reopen : ∀ refused problem t, s.reopen refused = (.error problem, t) → t = s
  read : ∀ fetch problem t, s.read fetch = (.error problem, t) → t = s
  update : ∀ refused problem t, s.update refused = (.error problem, t) → t = s
  reset : ∀ refused problem t, s.reset refused = (.error problem, t) → t = s

theorem atomic (s : Paging) : s.Atomic := by
  refine ⟨?_, ?_, ?_, ?_⟩
  · intro refused problem t h
    cases refused with
    | some problem =>
      cases h
      rfl
    | none =>
      rcases reopen_cases h with ⟨_, _, hsame⟩ | ⟨_, hok, _⟩
      · exact hsame
      · cases hok
  · intro fetch problem t h
    rcases read_outcome h with ⟨_, _, hsame⟩ | ⟨hok, _⟩ | ⟨_, _, _, _, hok, _⟩
    · exact hsame
    · cases hok
    · cases hok
  · intro refused problem t h
    cases refused <;> cases h
    rfl
  · intro refused problem t h
    cases refused <;> cases h
    rfl

/-! ## From one opening to the next -/

/-- The pages that were returned since a pager was opened, and the pager with its store after them.
The source may answer each call by other means, and the store may refuse each call. -/
inductive Reads (opened : Paging) : List (List Item) → Paging → Prop where
  | start : Reads opened [] opened
  | read {pages : List (List Item)} {s t : Paging} (h : Reads opened pages s)
      {fetch : Cursor → Nat → Except Problem (List Item)}
      {result : Except Problem (Option (List Item))} (hread : s.read fetch = (result, t)) :
      Reads opened (pages ++ returned result) t
  | update {pages : List (List Item)} {s t : Paging} (h : Reads opened pages s)
      {refused : Option Problem} {result : Except Problem Unit}
      (hupdate : s.update refused = (result, t)) : Reads opened pages t

/-- What the pages since an opening keep to, and where the next page moves the cursor. -/
structure Safe (opened : Paging) (pages : List (List Item)) (s : Paging) : Prop where
  size : ∀ page ∈ pages, page ≠ [] ∧ page.length ≤ opened.pager.settings.pageSize.toNat
  ascending : Ascending pages.flatten
  after : ∀ p, opened.pager.cursor.position = some p → ∀ item ∈ pages.flatten, p < item.position
  total : ∀ most, opened.pager.settings.maxCount = some most → pages.flatten.length ≤ most.toNat
  turn : ∀ fetch page t, s.read fetch = (.ok (some page), t) → ∃ last, page.getLast? = some last ∧
    t.pager.cursor.lastTimestamp = some last.timestamp ∧ t.pager.cursor.lastId = some last.id ∧
    (s.pager.cursor.processed.toNat + page.length < UInt64.size →
      t.pager.cursor.processed.toNat = s.pager.cursor.processed.toNat + page.length)

/-! ## The invariant -/

/-- All pages are safe, the counter of the run is right, the cursor has passed what was returned,
and it is not behind the cursor that was opened. -/
structure Window (opened : Paging) (pages : List (List Item)) (s : Paging) : Prop where
  settings_eq : s.pager.settings = opened.pager.settings
  count_eq : s.pager.readThisRun = pages.flatten.length
  size : ∀ page ∈ pages, page ≠ [] ∧ page.length ≤ opened.pager.settings.pageSize.toNat
  ascending : Ascending pages.flatten
  after : ∀ item ∈ pages.flatten, opened.pager.cursor.precedes item = true
  total : ∀ most, opened.pager.settings.maxCount = some most → pages.flatten.length ≤ most.toNat
  passed : ∀ item ∈ pages.flatten, s.pager.cursor.precedes item = false
  ahead : ∀ item, s.pager.cursor.precedes item = true → opened.pager.cursor.precedes item = true

/-- A pager that was just opened has read nothing. -/
theorem window_of_reopen {refused : Option Problem} (h : s.reopen refused = (.ok (), opened)) :
    Window opened [] opened := by
  have hcount : opened.pager.readThisRun = 0 := by
    -- a pager that was refused is not open
    cases refused with
    | some problem => cases h
    | none =>
      rcases reopen_cases h with ⟨_, hfail, _⟩ | ⟨_, _, rfl, _⟩
      · cases hfail
      · rfl
  refine ⟨rfl, hcount, ?_, List.Pairwise.nil, ?_, fun _ _ => Nat.zero_le _, ?_, fun _ h => h⟩
  all_goals
    intro _ hmem
    cases hmem

/-- What one more page keeps. -/
theorem Window.turned {last : Item} (h : Window opened pages s) (hlast : page.getLast? = some last)
    (hlimit : page.length ≤ s.pager.limit) (horder : s.pager.inOrder page = true) :
    Window opened (pages ++ [page]) (s.turned page) := by
  obtain ⟨hascending, hprecedes⟩ := Pager.inOrder_iff.1 horder
  have hflatten : (pages ++ [page]).flatten = pages.flatten ++ page := by
    rw [List.flatten_append, List.flatten_singleton]
  have hmoved := Cursor.precedes_advance_iff hlast s.pager.cursor
  have hcursor : s.pager.cursor.precedes last = true :=
    hprecedes last (List.mem_of_getLast? hlast)
  refine ⟨h.settings_eq, ?_, ?_, ?_, ?_, ?_, ?_, ?_⟩
  · rw [hflatten, List.length_append, ← h.count_eq]
    rfl
  · intro other hother
    -- an earlier page keeps its size, and this one is within the limit
    rcases List.mem_append.1 hother with hother | hother
    · exact h.size other hother
    · rw [List.mem_singleton.1 hother]
      refine ⟨List.ne_nil_of_mem (List.mem_of_getLast? hlast), ?_⟩
      rw [← h.settings_eq]
      exact Nat.le_trans hlimit s.pager.limit_le_pageSize
  · -- the cursor stands between the earlier pages and this one
    rw [hflatten]
    refine List.pairwise_append.2 ⟨h.ascending, hascending, ?_⟩
    intro a ha b hb
    exact Cursor.lt_of_precedes (h.passed a ha) (hprecedes b hb)
  · rw [hflatten, List.forall_mem_append]
    exact ⟨h.after, fun item hitem => h.ahead item (hprecedes item hitem)⟩
  · -- the limit is what is left of the total
    intro most hmost
    have hrest := Pager.limit_le_of_maxCount (h.settings_eq ▸ hmost)
    have htotal := h.total most hmost
    rw [h.count_eq] at hrest
    rw [hflatten, List.length_append]
    omega
  · rw [hflatten, List.forall_mem_append]
    constructor
    · -- what the cursor had passed comes before the last item of the page
      intro item hitem
      rw [← Bool.not_eq_true]
      intro hback
      exact Position.lt_asymm ((hmoved item).1 hback)
        (Cursor.lt_of_precedes (h.passed item hitem) hcursor)
    · -- and no item of the page comes after its last one
      intro item hitem
      rw [← Bool.not_eq_true]
      intro hback
      exact not_lt_last hascending hlast hitem ((hmoved item).1 hback)
  · intro item hitem
    exact h.ahead item (Cursor.precedes_of_lt hcursor ((hmoved item).1 hitem))

theorem Window.read {fetch : Cursor → Nat → Except Problem (List Item)}
    {result : Except Problem (Option (List Item))} (h : Window opened pages s)
    (hread : s.read fetch = (result, t)) : Window opened (pages ++ returned result) t := by
  rcases read_outcome hread with
    ⟨problem, rfl, rfl⟩ | ⟨rfl, rfl⟩ | ⟨page, last, hlast, hlimit, rfl, horder, rfl⟩
  · rw [returned, List.append_nil]
    exact h
  · rw [returned, List.append_nil]
    exact h
  · exact h.turned hlast hlimit horder

/-- Storing the cursor, done or refused, leaves the pager as it is. -/
theorem Window.update {refused : Option Problem} {result : Except Problem Unit}
    (h : Window opened pages s) (hupdate : s.update refused = (result, t)) :
    Window opened pages t := by
  have hpager : t.pager = s.pager := by
    cases refused <;> cases hupdate <;> rfl
  refine ⟨?_, ?_, h.size, h.ascending, h.after, h.total, ?_, ?_⟩
  · rw [hpager, h.settings_eq]
  · rw [hpager, h.count_eq]
  · rw [hpager]
    exact h.passed
  · rw [hpager]
    exact h.ahead

theorem Reads.window (h : Reads opened pages s) (hopened : Window opened [] opened) :
    Window opened pages s := by
  induction h with
  | start => exact hopened
  | read _ hread ih => exact ih.read hread
  | update _ hupdate ih => exact ih.update hupdate

/-- A page that is read moves the cursor to its last item, and is counted. -/
theorem cursor_of_read {fetch : Cursor → Nat → Except Problem (List Item)}
    (h : s.read fetch = (.ok (some page), t)) :
    ∃ last, page.getLast? = some last ∧
      t.pager.cursor.lastTimestamp = some last.timestamp ∧ t.pager.cursor.lastId = some last.id ∧
      (s.pager.cursor.processed.toNat + page.length < UInt64.size →
        t.pager.cursor.processed.toNat = s.pager.cursor.processed.toNat + page.length) := by
  rcases read_outcome h with
    ⟨_, hfail, _⟩ | ⟨hnone, _⟩ | ⟨read, last, hlast, _, hpage, _, rfl⟩
  · cases hfail
  · cases hnone
  · cases hpage
    have hadvance : s.pager.cursor.advance page =
        { lastTimestamp := some last.timestamp
          lastId := some last.id
          processed := s.pager.cursor.processed + UInt64.ofNat page.length } := by
      rw [Cursor.advance, hlast]
    refine ⟨last, hlast, ?_, ?_, ?_⟩
    · exact congrArg Cursor.lastTimestamp hadvance
    · exact congrArg Cursor.lastId hadvance
    · -- the count is a word, so it is exact while it fits one
      intro hsmall
      have hprocessed : (s.turned page).pager.cursor.processed.toNat
          = (s.pager.cursor.processed + UInt64.ofNat page.length).toNat :=
        congrArg (fun c : Cursor => c.processed.toNat) hadvance
      rw [UInt64.size] at hsmall
      rw [hprocessed, UInt64.toNat_add, UInt64.toNat_ofNat']
      omega

/-- A call that fails changes nothing, and whatever a source answers, the pages since an opening are
safe. -/
theorem reads_safe (s : Paging) :
    s.Atomic ∧ ∀ refused opened, s.reopen refused = (.ok (), opened) →
      ∀ pages t, Reads opened pages t → Safe opened pages t := by
  refine ⟨s.atomic, ?_⟩
  intro refused opened hopen pages t hreads
  have h := hreads.window (window_of_reopen hopen)
  refine ⟨h.size, h.ascending, ?_, h.total, ?_⟩
  · intro p hp item hitem
    exact (Cursor.precedes_iff hp item).1 (h.after item hitem)
  · intro fetch page t hread
    exact cursor_of_read hread

/-! ## A source that breaks every rule -/

namespace Unruly

def post (id : Int64) : Item :=
  { id, title := "a post", content := "about it", timestamp := .epoch }

/-- Five posts were read before, up to the first of these. -/
def cursor : Cursor := { lastTimestamp := some .epoch, lastId := some 1, processed := 5 }

/-- A run may read three posts, two at a time. -/
def before : Paging :=
  { pager := { name := "daily", settings := { pageSize := 2, maxCount := some 3 } }
    store := Table.empty.insert "daily.cursor" cursor.checkpoint }

def start : Paging := before.openedAt cursor

/-- After an answer with more posts than were asked for. -/
def first : Paging := (start.read fun _ _ => .ok [post 2, post 3, post 4]).2

/-- After an answer with two posts where one is left to read; one with a post that was read before
was refused. -/
def second : Paging := (first.read fun _ _ => .ok [post 4, post 5]).2

end Unruly

open Unruly in
theorem reads_safe_unruly :
    before.reopen none = (.ok (), start) ∧ Reads start [[post 2, post 3], [post 4]] second ∧
      Safe start [[post 2, post 3], [post 4]] second := by
  have hopen : before.reopen none = (.ok (), start) :=
    reopen_of_storedCursor (storedCursor_of_stored (by decide +kernel))
  have htoo : start.read (fun _ _ => .ok [post 2, post 3, post 4])
      = (.ok (some [post 2, post 3]), first) := rfl
  have hagain : first.read (fun _ _ => .ok [post 3, post 4]) =
      (.error first.pager.disorder, first) := rfl
  have hlast : first.read (fun _ _ => .ok [post 4, post 5]) = (.ok (some [post 4]), second) := rfl
  have hreads : Reads start [[post 2, post 3], [post 4]] second :=
    ((Reads.start.read htoo).read hagain).read hlast
  exact ⟨hopen, hreads, (reads_safe before).2 none start hopen _ second hreads⟩

open Unruly in
example : second.pager.cursor.processed = 8 ∧ second.pager.limit = 0 := by decide

end Paging

end Precis
