import Mathlib.Data.List.Induction
import Precis.Proofs.Job.Journal

/-!
# What the writer lists

The writer lists an item with its latest summary, and with its failure as long as that is the latest
that it was told of the item. What it lists of an item follows from what it was told of that item
alone (`listing_replay`).

A summary takes the item off the failures, but a failure leaves it among the summaries. So an item
is listed as both just when it failed after it had been summarized (`both_listed_iff`), which a job
comes to when it is resumed before a page whose summaries were written: `Job.both_listed_rerun`.
-/

namespace Precis

/-- What the writer is told of an item. -/
inductive Told where
  | summarized (s : SummarizedItem)
  | failed (item : Item)

/-- What a call tells the writer of an item, in order. -/
def Effect.tells (id : Int64) : Effect → List Told
  | summariesWritten items => (items.filter (·.item.id = id)).map .summarized
  | failuresWritten items => (items.filter (·.id = id)).map .failed
  | _ => []

/-- What a journal tells the writer of an item, in order. -/
def toldBy (id : Int64) (journal : List Effect) : List Told := journal.flatMap (·.tells id)

/-- How one item is listed. -/
@[ext] structure Listing where
  summary : Option SummarizedItem := none
  failure : Option Item := none

namespace Listing

/-- How the item is listed when the writer was told more of it. -/
def told (l : Listing) : Told → Listing
  | .summarized s => { summary := some s, failure := none }
  | .failed item => { l with failure := some item }

/-- An item that was summarized once stays listed with a summary. -/
theorem isSome_summary_foldl (l : Listing) (news : List Told) :
    (news.foldl told l).summary.isSome = true ↔
      l.summary.isSome = true ∨ ∃ s, .summarized s ∈ news := by
  induction news generalizing l with
  | nil => simp
  | cons first rest ih =>
    rw [List.foldl_cons, ih]
    cases first with
    | summarized s =>
      -- from here on it is listed with a summary
      constructor
      · intro _
        exact Or.inr ⟨s, List.mem_cons_self⟩
      · intro _
        exact Or.inl rfl
    | failed item =>
      -- a failure does not touch the summary
      apply or_congr Iff.rfl
      constructor
      · rintro ⟨s, hs⟩
        exact ⟨s, List.mem_cons_of_mem _ hs⟩
      · rintro ⟨s, hs⟩
        rcases List.mem_cons.1 hs with heq | hs
        · cases heq
        · exact ⟨s, hs⟩

/-- The item is listed as failed while its failure is the latest news. -/
theorem failure_foldl_eq_some_iff {news : List Told} {item : Item} :
    (news.foldl told {}).failure = some item ↔ ∃ past, news = past ++ [.failed item] := by
  induction news using List.reverseRecOn with
  | nil => simp
  | append_singleton past last _ =>
    -- only the last of the news decides
    rw [List.foldl_append]
    cases last with
    | summarized s => simp [told]
    | failed other => simp [told]

end Listing

/-! ## One item among others -/

/-- How the writer lists an item. -/
def Writer.listing (w : Writer) (id : Int64) : Listing :=
  { summary := w.summaries.get? id, failure := w.failures.get? id }

namespace Writer

variable {w : Writer} {id : Int64}

/-- Writes that each tell of one item: how an item is listed after them follows from those that tell
of it. -/
theorem listing_foldl {β : Type} {write : Writer → β → Writer} {idOf : β → Int64} {news : β → Told}
    (hwrite : ∀ w b, (write w b).listing id
      = if idOf b = id then (w.listing id).told (news b) else w.listing id) (written : List β) :
    (written.foldl write w).listing id
      = ((written.filter (idOf · = id)).map news).foldl Listing.told (w.listing id) := by
  induction written generalizing w with
  | nil => rfl
  | cons b rest ih =>
    rw [List.foldl_cons, ih, hwrite, List.filter_cons]
    -- writes that tell of other items do not count
    by_cases hid : idOf b = id
    · simp only [hid, if_true, decide_true, List.map_cons, List.foldl_cons]
    · simp only [hid, if_false, decide_false, Bool.false_eq_true]

theorem listing_writeSummaries (items : List SummarizedItem) :
    (w.writeSummaries items).listing id
      = ((items.filter (·.item.id = id)).map .summarized).foldl Listing.told (w.listing id) := by
  refine listing_foldl ?_ items
  intro w s
  rw [listing, writeSummary, Table.get?_insert, Table.get?_erase]
  split <;> rfl

theorem listing_writeFailures (items : List Item) :
    (w.writeFailures items).listing id
      = ((items.filter (·.id = id)).map .failed).foldl Listing.told (w.listing id) := by
  refine listing_foldl ?_ items
  intro w item
  rw [listing, writeFailure, Table.get?_insert]
  split <;> rfl

end Writer

namespace Stores

variable {key : String} {stores : Stores} {id : Int64}

/-- A call changes how an item is listed by what it tells of the item. -/
theorem listing_after (e : Effect) :
    (stores.after key e).writer.listing id
      = (e.tells id).foldl Listing.told (stores.writer.listing id) := by
  cases e with
  | summariesWritten items => exact Writer.listing_writeSummaries items
  | failuresWritten items => exact Writer.listing_writeFailures items
  | _ => rfl

/-- How an item is listed follows from what the writer was told of it. -/
theorem listing_replay (journal : List Effect) :
    (stores.replay key journal).writer.listing id
      = (toldBy id journal).foldl Listing.told (stores.writer.listing id) := by
  induction journal generalizing stores with
  | nil => rfl
  | cons e rest ih =>
    have hrest : (stores.replay key (e :: rest)).writer.listing id
        = (toldBy id rest).foldl Listing.told ((stores.after key e).writer.listing id) := ih
    rw [hrest, listing_after, ← List.foldl_append]
    rfl

/-- Whatever calls were made, an item is listed both as summarized and as failed just when the
writer was last told that it failed, and had been told of a summary before. -/
theorem both_listed_iff (key : String) (journal : List Effect) (id : Int64) :
    ((Stores.replay key {} journal).writer.summaries.contains id = true ∧
        (Stores.replay key {} journal).writer.failures.contains id = true) ↔
      ∃ past item s, toldBy id journal = past ++ [.failed item] ∧ .summarized s ∈ past := by
  have hlisting : (Stores.replay key {} journal).writer.listing id
      = (toldBy id journal).foldl Listing.told {} := listing_replay journal
  generalize toldBy id journal = news at hlisting ⊢
  generalize (Stores.replay key {} journal).writer = w at hlisting ⊢
  have hsummary : w.summaries.contains id = true ↔ ∃ s, .summarized s ∈ news := by
    show (w.listing id).summary.isSome = true ↔ _
    rw [hlisting, Listing.isSome_summary_foldl]
    exact or_iff_right Bool.false_ne_true
  have hfailure : w.failures.contains id = true ↔ ∃ item past, news = past ++ [.failed item] := by
    show (w.listing id).failure.isSome = true ↔ _
    rw [hlisting, Option.isSome_iff_exists]
    exact exists_congr fun _ => Listing.failure_foldl_eq_some_iff
  rw [hsummary, hfailure]
  constructor
  · rintro ⟨⟨s, hs⟩, item, past, rfl⟩
    -- the summary is not the last of the news, which is a failure
    rcases List.mem_append.1 hs with hs | hs
    · exact ⟨past, item, s, rfl, hs⟩
    · cases List.mem_singleton.1 hs
  · rintro ⟨past, item, s, rfl, hs⟩
    exact ⟨⟨s, List.mem_append_left _ hs⟩, item, past, rfl⟩

end Stores

/-! ## A job that is resumed -/

namespace Rerun

/-- A post. -/
def post : Item := { id := 1, title := "a post", content := "about it", timestamp := .epoch }

/-- Summarizes what it is sent first, and refuses everything after that. -/
def fickle : Provider Bool := fun _ refuses items =>
  ({ millis := 0
     result := .answered (items.map fun i =>
      (i.id, if refuses then .failed "no" (some "blocked") else .summary { text := i.title })) },
    true)

def job : Job Bool :=
  { settings := {}, packer := .withCounter {} .characters, provider := fickle, today := .epoch }

def desk : Desk Bool :=
  { source := .ofList [post]
    paging := { pager := { name := "daily", settings := {} }, store := .empty }
    provider := false }

/-- The cursor cannot be stored. -/
def refusing : Faults := fun _ access =>
  if access = .storeCursor then some (.corruptCheckpoint {}) else none

/-- A run that fails after its page was written. -/
def first : Desk Bool := (job.runOn desk.source.feed refusing 30 desk).2

/-- A run from there, which reads the page again. -/
def second : Desk Bool := (job.runOn desk.source.feed (fun _ _ => none) 30 first).2

end Rerun

open Rerun in
/-- A job that fails after a summary was written, and is run again when the provider refuses the
item, leaves the item both summarized and failed. -/
theorem Job.both_listed_rerun :
    desk.writer = {} ∧
      (job.runOn desk.source.feed refusing 30 desk).1 = .error (.refused (.corruptCheckpoint {})) ∧
      first.writer.failures.contains 1 = false ∧
      (job.runOn desk.source.feed (fun _ _ => none) 30 first).1.toOption.isSome = true ∧
      second.writer.summaries.contains 1 = true ∧ second.writer.failures.contains 1 = true := by
  refine ⟨rfl, ?_, ?_, ?_, ?_, ?_⟩ <;> decide +kernel

end Precis
