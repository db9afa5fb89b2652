import Precis.Proofs.Dispatch.Answers
import Precis.Proofs.Job.Listing
import Precis.Proofs.Job.Settlement
import Precis.Proofs.Packing.Segments
import Precis.Proofs.Retry.Queue

/-!
# What a settled page leaves of its items

With a provider that answers by the item, a page is settled item by item: the summaries and the
failed items that are written are those of the items one by one (`summarizedItems_eq`,
`unsized_failedItems`), whatever batches they were sent in. So what the stores hold of an item after
its page is what its answer makes of it, and of other items they hold what they held before:
`Stores.kept_settled`.

Only the number of items sent together and the times of retry entries are left out of the comparison
(`Stores.kept`).
-/

namespace Precis

open Time Settlement

/-! ## What is kept of an item -/

/-- The item without the number of items that were sent with it. -/
def Item.unsized (item : Item) : Item := { item with failure := item.failure.map (·.unsized) }

/-- The entry without its times. -/
def RetryEntry.timeless (e : RetryEntry) : RetryEntry :=
  { e with next := .epoch, created := .epoch, last := none }

theorem RetryEntry.timeless_new (item : Int64) (reason : String) (kind : FailureKind)
    (maxRetries : UInt32) (base : Nat) (now : Timestamp) :
    (RetryEntry.new item reason kind maxRetries base now).timeless =
      { item, reason, kind, retries := 0, next := .epoch, maxRetries, created := .epoch } := rfl

/-- What stores hold of one item, but for sizes and times. -/
@[ext] structure Kept where
  summary : Option SummarizedItem := none
  failure : Option Item := none
  entry : Option RetryEntry := none

/-- What the stores hold of an item. -/
def Stores.kept (stores : Stores) (id : Int64) : Kept :=
  { summary := stores.writer.summaries.get? id
    failure := (stores.writer.failures.get? id).map (·.unsized)
    entry := (stores.retries.get? id).map (·.timeless) }

namespace Answer

variable (answer : Answer) (item : Item)

/-- The item as it is written when it gets no summary. -/
def failed : Option Item := (answer.note item).map fun note => { item with failure := some note }

/-- The entry of an item whose failure is worth another attempt. -/
def entry (s : RetrySettings) : Option RetryEntry :=
  (answer.note item).bind fun note =>
    if note.kind.retryable then
      some
        { item := item.id, reason := note.message, kind := note.kind, retries := 0, next := .epoch
          maxRetries := s.maxRetries, created := .epoch }
    else none

/-- What the stores hold of an item that was answered. -/
def kept (s : RetrySettings) : Kept :=
  { summary := answer.summary item, failure := answer.failed item, entry := answer.entry item s }

end Answer

/-! ## A page in answered parts -/

namespace Settlement

variable {answer : Answer} {page sent : List Item} {successes : List SummarizedItem}
  {failures : List Failure} {item : Item} {id : Int64}

/-- Of items with distinct ids one has this one. -/
theorem filter_id_of_mem (hids : (page.map (·.id)).Nodup) (hitem : item ∈ page) :
    page.filter (·.id = item.id) = [item] := by
  induction page with
  | nil => cases hitem
  | cons first rest ih =>
    rw [List.map_cons, List.nodup_cons] at hids
    -- the first item has the id, and no other one does
    rcases List.mem_cons.1 hitem with rfl | hitem
    · have hrest : rest.filter (·.id = item.id) = [] := by
        rw [List.filter_eq_nil_iff]
        intro other hother heq
        exact hids.1 (of_decide_eq_true heq ▸ List.mem_map_of_mem hother)
      rw [List.filter_cons_of_pos (by simp), hrest]
    · have hne : first.id ≠ item.id := by
        intro heq
        exact hids.1 (heq ▸ List.mem_map_of_mem hitem)
      rw [List.filter_cons_of_neg (by simpa using hne), ih hids.2 hitem]

theorem filter_id_of_not_mem (h : id ∉ page.map (·.id)) : page.filter (·.id = id) = [] := by
  rw [List.filter_eq_nil_iff]
  intro item hitem heq
  exact h (of_decide_eq_true heq ▸ List.mem_map_of_mem hitem)

/-- What was sent of a page, perhaps cut, got these answers. -/
structure Answered (answer : Answer) (page sent : List Item) (successes : List SummarizedItem)
    (failures : List Failure) : Prop where
  ids_nodup : (page.map (·.id)).Nodup
  sent_ids : sent.map (·.id) = page.map (·.id)
  successes_eq : successes = sent.filterMap answer.summary
  failures_eq : failures.map (·.unsized) = sent.filterMap answer.failure

namespace Answered

variable (h : Answered answer page sent successes failures)

include h

/-- What is made of the items that were sent is what is made of the items of the page. -/
theorem filterMap_sent {β : Type} {f g : Item → Option β}
    (hfg : ∀ i ∈ sent, ∀ item ∈ page, i.id = item.id → f i = g item) :
    sent.filterMap f = page.filterMap g := by
  have hids := h.sent_ids
  clear h
  induction sent generalizing page with
  | nil =>
    rw [List.map_nil, List.nil_eq, List.map_eq_nil_iff] at hids
    rw [hids]
    rfl
  | cons i rest ih =>
    cases page with
    | nil => cases hids
    | cons item others =>
      obtain ⟨hid, hrest⟩ := List.cons.inj hids
      have hfirst := hfg i List.mem_cons_self item List.mem_cons_self hid
      -- the first items of both have the same id, and so one answer
      have hothers :=
        ih (fun a ha b hb => hfg a (List.mem_cons_of_mem _ ha) b (List.mem_cons_of_mem _ hb)) hrest
      rw [List.filterMap_cons, List.filterMap_cons, hfirst, hothers]

/-- The summaries are those of the items of the page, as they were read. -/
theorem summarizedItems_eq : summarizedItems page successes = page.filterMap answer.summary := by
  rw [summarizedItems, h.successes_eq, List.map_filterMap]
  apply h.filterMap_sent
  intro i _ item hitem hid
  rw [← Answer.summary_congr hid]
  cases hsummary : answer.summary i with
  | none => rfl
  | some s =>
    -- the id of a summary is that of its item, which is on the page once
    have hfound := findLast?_id h.ids_nodup hitem
    rw [Option.map_some, Option.map_some, Answer.item_of_summary hsummary, hid, hfound]

/-- Each failure is made of the answer to an item that was sent. -/
theorem exists_of_mem_failures {f : Failure} (hf : f ∈ failures) :
    ∃ i ∈ sent, answer.failure i = some f.unsized := by
  rw [← List.mem_filterMap, ← h.failures_eq]
  exact List.mem_map_of_mem hf

theorem retryable_of_mem_failures {f : Failure} (hf : f ∈ failures) :
    f.retryable = f.note.kind.retryable := by
  obtain ⟨i, -, hi⟩ := h.exists_of_mem_failures hf
  have hunsized : f.unsized.retryable = f.unsized.kind.retryable := Answer.retryable_of_failure hi
  exact hunsized

/-- Each failure is the one of its item. -/
theorem note_of_mem_failures {f : Failure} (hf : f ∈ failures) (hid : f.item.id = item.id) :
    answer.note item = some f.note.unsized := by
  obtain ⟨i, -, hi⟩ := h.exists_of_mem_failures hf
  obtain ⟨hitem, hnote⟩ := Answer.failure_eq_some hi
  have hsame : i.id = item.id := by
    rw [← hitem]
    exact hid
  rw [← Answer.note_congr hsame, hnote, Failure.note_unsized]

/-- An item of the page that gets no summary is among the failures. -/
theorem exists_failure (hitem : item ∈ page) {note : FailureNote}
    (hnote : answer.note item = some note) : ∃ f ∈ failures, f.item.id = item.id := by
  have hid : item.id ∈ sent.map (·.id) := by
    rw [h.sent_ids]
    exact List.mem_map_of_mem hitem
  obtain ⟨i, hi, hsame⟩ := List.mem_map.1 hid
  have hfailure : ∃ f, answer.failure i = some f := by
    rw [Answer.failure, Answer.note_congr hsame, hnote]
    exact ⟨_, rfl⟩
  obtain ⟨f, hf⟩ := hfailure
  have hmem : f ∈ failures.map (·.unsized) := by
    rw [h.failures_eq]
    exact List.mem_filterMap.2 ⟨i, hi, hf⟩
  obtain ⟨g, hg, rfl⟩ := List.mem_map.1 hmem
  refine ⟨g, hg, ?_⟩
  rw [← hsame, ← (Answer.failure_eq_some hf).1]
  rfl

/-- An item is written with the note that its answer gives. -/
theorem noteFor_unsized (hitem : item ∈ page) {note : FailureNote}
    (hnote : answer.note item = some note) : (noteFor failures item).unsized = note := by
  rw [noteFor]
  cases hfound : findLast? (·.item.id == item.id) failures with
  | none =>
    -- there is a failure for every item that the answer has a note for
    obtain ⟨f, hf, hid⟩ := h.exists_failure hitem hnote
    have hnot := findLast?_eq_none hfound f hf
    rw [beq_eq_false_iff_ne] at hnot
    exact absurd hid hnot
  | some f =>
    obtain ⟨hf, hid⟩ := findLast?_eq_some hfound
    have hsame := h.note_of_mem_failures hf (eq_of_beq hid)
    rw [hnote, Option.some_inj] at hsame
    exact hsame.symm

/-- The failed items are those of the page that get no summary. -/
theorem unsized_failedItems :
    (failedItems page (summarizedItems page successes) failures).map (·.unsized)
      = page.filterMap answer.failed := by
  rw [h.summarizedItems_eq, failedItems, List.map_map, ← List.filterMap_eq_map,
    List.filterMap_filter]
  apply List.filterMap_congr
  intro item hitem
  have hany : (page.filterMap answer.summary).any (·.item.id == item.id)
      = (answer.summary item).isSome := by
    rw [Bool.eq_iff_iff, List.any_eq_true]
    constructor
    · rintro ⟨s, hs, hid⟩
      obtain ⟨other, hother, hsummary⟩ := List.mem_filterMap.1 hs
      have hsame : other = item := by
        apply eq_of_id_eq h.ids_nodup hother hitem
        rw [← Answer.item_of_summary hsummary]
        exact eq_of_beq hid
      rw [← hsame, hsummary]
      rfl
    · intro hsome
      obtain ⟨s, hs⟩ := Option.isSome_iff_exists.1 hsome
      refine ⟨s, List.mem_filterMap.2 ⟨item, hitem, hs⟩, ?_⟩
      rw [Answer.item_of_summary hs]
      exact beq_self_eq_true _
  rw [hany, Answer.failed]
  cases hnote : answer.note item with
  | none =>
    -- an item without a note has a summary, so it is not among the failures
    rw [Answer.note_eq_none_iff.1 hnote]
    rfl
  | some note =>
    -- an item with a note has no summary
    have hnone : (answer.summary item).isSome = false := by
      rw [← Bool.not_eq_true, ← Answer.note_eq_none_iff, hnote]
      exact Option.some_ne_none note
    rw [hnone, ← h.noteFor_unsized hitem hnote]
    rfl

/-- The ids of the failures are ids of the page, each once. -/
theorem ids_failures : (failures.map (·.item.id)).Sublist (page.map (·.id)) := by
  have hitems : failures.map (·.item) = sent.filter fun i => (answer.failure i).isSome := by
    have hof : ∀ i f, answer.failure i = some f → f.item = i :=
      fun _ _ hf => (Answer.failure_eq_some hf).1
    rw [← Request.map_filterMap_eq_filter hof, ← h.failures_eq, List.map_map]
    rfl
  have hids : failures.map (·.item.id) = (failures.map (·.item)).map (·.id) := by
    rw [List.map_map]
    rfl
  rw [hids, hitems, ← h.sent_ids]
  exact List.filter_sublist.map _

end Answered

end Settlement

/-! ## What the writer lists -/

namespace Writer

variable {answer : Answer} {page : List Item} {failed : List Item} {item : Item}
  {id : Int64} (w : Writer)

/-- Of what is made of items the part with one id is what is made of the items with it. -/
theorem filter_filterMap_id {β : Type} {make : Item → Option β} {idOf : β → Int64}
    (h : ∀ i b, make i = some b → idOf b = i.id) (items : List Item) (id : Int64) :
    (items.filterMap make).filter (idOf · = id) = (items.filter (·.id = id)).filterMap make := by
  induction items with
  | nil => rfl
  | cons i rest ih =>
    by_cases heq : i.id = id
    · -- what is made of the first item has its id
      rw [List.filter_cons_of_pos (by simpa using heq), List.filterMap_cons,
        List.filterMap_cons, ← ih]
      cases hmake : make i with
      | none => rfl
      | some b =>
        have hid := h i b hmake
        exact List.filter_cons_of_pos (by simpa using hid.trans heq)
    · -- nothing made of the first item has the id
      rw [List.filter_cons_of_neg (by simpa using heq), List.filterMap_cons, ← ih]
      cases hmake : make i with
      | none => rfl
      | some b =>
        have hid := h i b hmake
        exact List.filter_cons_of_neg (by simpa [hid] using heq)

/-- What is written of the items with an id is what is made of them. -/
theorem filter_written (hfailed : failed.map (·.unsized) = page.filterMap answer.failed)
    (id : Int64) :
    (page.filterMap answer.summary).filter (·.item.id = id)
        = (page.filter (·.id = id)).filterMap answer.summary ∧
      (failed.filter (·.id = id)).map (·.unsized)
        = (page.filter (·.id = id)).filterMap answer.failed := by
  constructor
  · apply filter_filterMap_id
    intro i s hs
    rw [Answer.item_of_summary hs]
  · have hcommute : (failed.filter (·.id = id)).map (·.unsized)
        = (failed.map (·.unsized)).filter (·.id = id) := by
      rw [List.filter_map]
      rfl
    rw [hcommute, hfailed]
    apply filter_filterMap_id
    intro i f hf
    obtain ⟨note, _, rfl⟩ := Option.map_eq_some_iff.1 hf
    rfl

/-- An item that was not listed is listed as its answer has it. -/
theorem listing_of_mem (hids : (page.map (·.id)).Nodup) (hitem : item ∈ page)
    (hfailed : failed.map (·.unsized) = page.filterMap answer.failed)
    (hnew : w.listing item.id = {}) :
    let l :=
      ((w.writeSummaries (page.filterMap answer.summary)).writeFailures failed).listing item.id
    l.summary = answer.summary item ∧ l.failure.map (·.unsized) = answer.failed item := by
  obtain ⟨hsummaries, hfailures⟩ := filter_written hfailed item.id
  rw [Settlement.filter_id_of_mem hids hitem] at hsummaries hfailures
  dsimp only
  rw [listing_writeFailures, listing_writeSummaries, hsummaries, hnew]
  cases hnote : answer.note item with
  | none =>
    -- it is listed with its summary, and with no failure
    obtain ⟨s, hs⟩ := Option.isSome_iff_exists.1 (Answer.note_eq_none_iff.1 hnote)
    have hnofail : answer.failed item = none := by rw [Answer.failed, hnote]; rfl
    have hempty : failed.filter (·.id = item.id) = [] := by
      simpa [hnofail] using hfailures
    rw [hempty, hnofail, hs]
    simp [hs, Listing.told]
  | some note =>
    have hnone : answer.summary item = none := by
      rw [← Option.not_isSome_iff_eq_none, ← Answer.note_eq_none_iff, hnote]
      exact Option.some_ne_none note
    have hfail : answer.failed item = some { item with failure := some note } := by
      rw [Answer.failed, hnote]
      rfl
    have hsingle : (failed.filter (·.id = item.id)).map (·.unsized)
        = [{ item with failure := some note }] := by
      simpa [hfail] using hfailures
    obtain ⟨f, hf, hunsized⟩ := List.map_eq_singleton_iff.1 hsingle
    rw [hf, hnone, hfail]
    simp [hnone, Listing.told, hunsized]

/-- Other items stay as they are listed. -/
theorem listing_of_not_mem (hid : id ∉ page.map (·.id))
    (hfailed : failed.map (·.unsized) = page.filterMap answer.failed) :
    ((w.writeSummaries (page.filterMap answer.summary)).writeFailures failed).listing id
      = w.listing id := by
  obtain ⟨hsummaries, hfailures⟩ := filter_written hfailed id
  rw [Settlement.filter_id_of_not_mem hid] at hsummaries hfailures
  have hempty : failed.filter (·.id = id) = [] := List.map_eq_nil_iff.1 hfailures
  rw [listing_writeFailures, listing_writeSummaries, hsummaries, hempty]
  rfl

end Writer

/-! ## What the stores hold -/

namespace RetryStore

variable {answer : Answer} {page sent : List Item} {successes : List SummarizedItem}
  {failures : List Failure} {item : Item} {id : Int64} (s : RetrySettings) (today : Timestamp)
  {store : RetryStore}

/-- The queue after the failures of a page, whose summarized items have left it. -/
def settled (s : RetrySettings) (today : Timestamp) (store : RetryStore)
    (summaries : List SummarizedItem) (failures : List Failure) : RetryStore :=
  (recordFailures s today (recordSuccesses store (summaries.map (·.item.id))).2 failures).2

/-- The entry of an item that had none follows from its answer, and entries of other items stay. -/
theorem get?_settled (h : Answered answer page sent successes failures)
    (hnew : ∀ item ∈ page, store.get? item.id = none) :
    (∀ item ∈ page,
      ((store.settled s today (page.filterMap answer.summary) failures).get? item.id).map
        (·.timeless) = answer.entry item s) ∧
      ∀ id, id ∉ page.map (·.id) →
        (store.settled s today (page.filterMap answer.summary) failures).get? id
          = store.get? id := by
  have hsummarized := get?_recordSuccesses store ((page.filterMap answer.summary).map (·.item.id))
  rw [settled]
  generalize (recordSuccesses store ((page.filterMap answer.summary).map (·.item.id))).2 = left
    at hsummarized ⊢
  -- no item of the page has an entry when the failures are recorded
  have hleft : ∀ item ∈ page, left.get? item.id = none := by
    intro item hitem
    rw [hsummarized]
    split
    · -- its entry was dropped with its summary
      rfl
    · exact hnew item hitem
  have hfailures : ∀ f ∈ failures, left.get? f.item.id = none := by
    intro f hf
    have hid := h.ids_failures.subset (List.mem_map_of_mem (f := (·.item.id)) hf)
    obtain ⟨item, hitem, heq⟩ := List.mem_map.1 hid
    rw [← heq]
    exact hleft item hitem
  obtain ⟨hrecorded, hothers⟩ := get?_recordFailures s today left
    (h.ids_nodup.sublist h.ids_failures) (by
      intro f hf e he
      rw [hfailures f hf] at he
      cases he)
  constructor
  · intro item hitem
    rw [Answer.entry]
    cases hnote : answer.note item with
    | none =>
      -- no failure has its id, so nothing is recorded
      have hnot : item.id ∉ failures.map (·.item.id) := by
        intro hid
        obtain ⟨f, hf, heq⟩ := List.mem_map.1 hid
        rw [h.note_of_mem_failures hf heq] at hnote
        cases hnote
      rw [hothers _ hnot, hleft item hitem]
      rfl
    | some note =>
      -- there is one failure of the item, and its note is the one of the answer
      obtain ⟨f, hf, hid⟩ := h.exists_failure hitem hnote
      have hsame : f.note.unsized = note := by
        rw [h.note_of_mem_failures hf hid, Option.some_inj] at hnote
        exact hnote
      have hentry : Verdict.entry? (Verdict.of s today f none)
          = s.entryAfter today f.item.id f.note.kind.retryable f.note none := by
        rw [← h.retryable_of_mem_failures hf]
        exact Verdict.entry?_of fun e he => by cases he
      rw [← hid, hrecorded f hf, hfailures f hf, hentry, RetrySettings.entryAfter.eq_def, ← hsame,
        Option.bind_some]
      -- only what is worth another attempt gets an entry
      by_cases hkind : f.note.kind.retryable = true
      · rw [if_pos hkind, if_pos (by exact hkind), Option.map_some, RetryEntry.timeless_new]
        rfl
      · rw [if_neg hkind, if_neg (by exact hkind), Option.map_none]
  · -- an id that is not on the page is in no summary and in no failure
    intro id hid
    have hnot : id ∉ failures.map (·.item.id) := fun hmem => hid (h.ids_failures.subset hmem)
    rw [hothers _ hnot, hsummarized, if_neg]
    intro hmem
    obtain ⟨summary, hs, heq⟩ := List.mem_map.1 hmem
    obtain ⟨item, hitem, hmade⟩ := List.mem_filterMap.1 hs
    rw [← heq, Answer.item_of_summary hmade] at hid
    exact hid (List.mem_map_of_mem hitem)

end RetryStore

namespace Stores

variable {answer : Answer} {page sent : List Item} {successes : List SummarizedItem}
  {failures : List Failure} {stores : Stores}

/-- The stores after a page was settled. -/
def settled (s : RetrySettings) (today : Timestamp) (stores : Stores) (page : List Item)
    (successes : List SummarizedItem) (failures : List Failure) : Stores :=
  let summaries := summarizedItems page successes
  { stores with
    writer := (stores.writer.writeSummaries summaries).writeFailures
      (failedItems page summaries failures)
    retries := stores.retries.settled s today summaries failures }

/-- An item of which nothing was held is held after its page as its answer has it, however the page
was sent, and of other items the same is held as before. -/
theorem kept_settled (s : RetrySettings) (today : Timestamp)
    (h : Answered answer page sent successes failures)
    (hnew : ∀ item ∈ page, stores.kept item.id = {}) :
    (∀ item ∈ page, (stores.settled s today page successes failures).kept item.id =
      answer.kept item s) ∧
      ∀ id, id ∉ page.map (·.id) →
        (stores.settled s today page successes failures).kept id = stores.kept id := by
  have hlisting : ∀ item ∈ page, stores.writer.listing item.id = {} := by
    intro item hitem
    have hkept := hnew item hitem
    have hfailure := congrArg Kept.failure hkept
    exact Listing.ext (congrArg Kept.summary hkept) (Option.map_eq_none_iff.1 hfailure)
  have hentries : ∀ item ∈ page, stores.retries.get? item.id = none := by
    intro item hitem
    have hentry := congrArg Kept.entry (hnew item hitem)
    exact Option.map_eq_none_iff.1 hentry
  have hfailed := h.unsized_failedItems
  obtain ⟨hretries, hothers⟩ := RetryStore.get?_settled s today h hentries
  rw [settled]
  rw [h.summarizedItems_eq] at hfailed ⊢
  generalize failedItems page (page.filterMap answer.summary) failures = failed at hfailed ⊢
  constructor
  · intro item hitem
    obtain ⟨hsummary, hfailure⟩ :=
      stores.writer.listing_of_mem h.ids_nodup hitem hfailed (hlisting item hitem)
    exact Kept.ext hsummary hfailure (hretries item hitem)
  · intro id hid
    have hsame := stores.writer.listing_of_not_mem hid hfailed
    refine Kept.ext ?_ ?_ ?_
    · exact congrArg Listing.summary hsame
    · exact congrArg (fun l => l.failure.map (·.unsized)) hsame
    · exact congrArg (Option.map (·.timeless)) (hothers id hid)

end Stores

end Precis
