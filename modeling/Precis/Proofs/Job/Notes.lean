import Precis.Proofs.Job.Conservation

/-!
# Notes of earlier failures

A job writes a summary with its item as it was read, and the note of an earlier failure is part of
the item. So a summary is written with a note exactly where the source answered with one:
`summaries_as_read`. This is so for every source and every run, also for one that ends early, and
whatever ids the items have.

The invariant of a run is `Faithful`: what was written as a summary was read before, and so was the
page in work. Reading a page puts it in work (`Faithful.turn`), and only what stands in it is
written.
-/

namespace Precis

open Job Settlement

variable {σ : Type}

/-- The items of every write of summaries were read before it, note and all. -/
def SummariesAsRead (journal : List Effect) : Prop :=
  ∀ past items, past ++ [.summariesWritten items] <+: journal → ∀ s ∈ items, s.item ∈ readBy past

theorem SummariesAsRead.concat {journal : List Effect} {e : Effect} (h : SummariesAsRead journal)
    (he : ∀ s ∈ e.summaries, s.item ∈ readBy journal) : SummariesAsRead (journal ++ [e]) := by
  intro past items hpast
  rcases List.prefix_concat_iff.1 hpast with heq | hpast
  · -- the write is the new call
    obtain ⟨rfl, hlast⟩ := List.append_inj' heq rfl
    cases hlast
    exact he
  · exact h past items hpast

/-- Every summary of the journal is of a write. -/
theorem SummariesAsRead.mem_readBy {journal : List Effect} (h : SummariesAsRead journal)
    {s : SummarizedItem} (hs : s ∈ summarizedBy journal) : s.item ∈ readBy journal := by
  obtain ⟨e, he, hwritten⟩ := List.mem_flatMap.1 hs
  cases e with
  | summariesWritten items =>
    obtain ⟨past, later, rfl⟩ := List.append_of_mem he
    have hpast : past ++ [.summariesWritten items] <+: past ++ .summariesWritten items :: later :=
      ⟨later, by rw [List.append_assoc, List.singleton_append]⟩
    unfold readBy
    rw [List.flatMap_append]
    exact List.mem_append_left _ (h past items hpast s hwritten)
  | _ => cases hwritten

/-! ## The invariant of a run -/

/-- What was written as a summary was read before, and so was the page in work. -/
structure Faithful (page : List Item) (desk : Desk σ) : Prop where
  asRead : SummariesAsRead desk.done
  pending : ∀ item ∈ page, item ∈ readBy desk.done

namespace Faithful

variable {page : List Item} {desk desk' : Desk σ}

/-- Work beside the journal. -/
theorem of_done_eq (h : Faithful page desk) (hdone : desk'.done = desk.done) :
    Faithful page desk' := by
  obtain ⟨hasRead, hpending⟩ := h
  rw [← hdone] at hasRead hpending
  exact ⟨hasRead, hpending⟩

theorem leave (h : Faithful page desk) : Faithful [] desk :=
  ⟨h.asRead, by simp⟩

/-- One more call, which writes summaries of what was read only. -/
theorem concat {e : Effect} (h : Faithful page desk) (hdone : desk'.done = desk.done ++ [e])
    (hwritten : ∀ s ∈ e.summaries, s.item ∈ readBy desk.done) : Faithful page desk' := by
  constructor
  · rw [hdone]
    exact h.asRead.concat hwritten
  · intro item hitem
    rw [hdone, readBy_concat]
    exact List.mem_append_left _ (h.pending item hitem)

/-- A call that writes no summary. -/
theorem after_call {e : Effect} (h : Faithful page desk) (he : e.summaries = [])
    (hdone : desk'.done = desk.done ++ [e]) : Faithful page desk' := by
  apply h.concat hdone
  rw [he]
  exact List.forall_mem_nil _

/-- A page that was read is in work. -/
theorem turn {limit : Nat} {answer : List Item} (h : Faithful [] desk)
    (hdone : desk'.done = desk.done ++ [.fetched limit answer]) :
    Faithful (answer.take limit) desk' := by
  have hasRead := (h.after_call rfl hdone).asRead
  refine ⟨hasRead, ?_⟩
  intro item hitem
  rw [hdone, readBy_concat]
  exact List.mem_append_right _ hitem

/-- What is settled as a summary is of an item in the page: the id of the summary finds the item
there. -/
theorem mem_page {sent : List Item} {successes : List SummarizedItem} {failures : List Failure}
    (hsent : sent.map (·.id) = page.map (·.id)) (hdivides : Divides sent successes failures) :
    ∀ s ∈ summarizedItems page successes, s.item ∈ page := by
  apply mem_page_of_mem_summarizedItems
  intro s hs
  exact (ids_successes_sublist hsent hdivides).subset (List.mem_map_of_mem hs)

theorem meets_keepSummaries (faults : Faults) {summaries : List SummarizedItem}
    (hpage : ∀ s ∈ summaries, s.item ∈ page) :
    Meets (Faithful page) (keepSummaries faults summaries : Work σ Unit)
      (fun _ => Faithful page) (Faithful []) := by
  refine Job.meets_keepSummaries (fun _ => Faithful page) (fun _ h _ => h) ?_ ?_
    (fun _ h => h.leave) fun _ _ h => h.leave
  · -- what is written stands in the page, and the page was read
    intro desk h
    apply h.concat rfl
    intro s hs
    exact h.pending _ (hpage s hs)
  · intro s rest desk h
    exact h.after_call (e := .retryDropped s.item.id) rfl rfl

theorem meets_keepFailures (faults : Faults) (items : List Item) :
    Meets (Faithful page) (keepFailures faults items : Work σ Unit) (fun _ => Faithful page)
      (Faithful []) := by
  refine Job.meets_keepFailures (fun _ h _ => h) ?_ fun _ h => h.leave
  intro desk h
  exact h.after_call (e := .failuresWritten items) rfl rfl

theorem meets_recordFailures (job : Job σ) (faults : Faults) (failures : List Failure) :
    Meets (Faithful page) (failures.foldlM (job.recordFailure faults) ({} : RetryReport))
      (fun _ => Faithful page) (Faithful []) := by
  refine Job.meets_recordFailures (fun _ => Faithful page) ?_ ?_ fun _ _ h => h.leave
  · intro f rest desk h
    exact h.after_call (e := .retryRead f.item.id) rfl rfl
  · intro f rest desk v h _
    refine h.after_call (e := verdictEffect v f.item.id) ?_ rfl
    unfold verdictEffect
    split
    · rfl
    · rfl

/-- Of a page, summaries are written with items that stand in it. -/
theorem meets_settlePage (job : Job σ) (faults : Faults) (fuel : Nat) (page : List Item) :
    Meets (Faithful page) (job.settlePage faults fuel page) (fun _ => Faithful [])
      (Faithful []) := by
  unfold settlePage
  refine meets_bind (m := fun batches desk => Faithful page desk ∧
      job.packer.pack page = some batches) ?_ fun batches => ?_
  · exact meets_pack (fun _ h => h.leave) fun _ _ h hpack => ⟨h, hpack⟩
  refine meets_bind (m := fun _ desk => Faithful page desk ∧
      job.packer.pack page = some batches) ?_ fun _ => ?_
  · exact meets_modify fun _ ⟨h, hpack⟩ => ⟨h.of_done_eq rfl, hpack⟩
  refine meets_bind (m := fun results desk => Faithful page desk ∧
      job.packer.pack page = some batches ∧
      List.Forall₂ Request.Gets (requests batches) results) ?_ fun results => ?_
  · refine meets_dispatch (fun _ ⟨h, _⟩ => h.leave) ?_
    intro desk ⟨h, hpack⟩ r hgets
    exact ⟨h.of_done_eq rfl, hpack, hgets⟩
  -- from here on the results are known
  refine meets_intro fun desk ⟨h, hpack, hgets⟩ => ?_
  have hdivides := Dispatch.divides_results hgets
  rw [Settled.flatMap_requests] at hdivides
  have hpage := mem_page (Packer.ids_pack hpack) hdivides
  refine Meets.weaken (b := Faithful page) ?_ (by rintro _ rfl; exact h) fun _ _ h => h
  refine meets_bind (meets_keepSummaries faults hpage) fun _ => ?_
  refine meets_bind (meets_keepFailures faults _) fun _ => ?_
  refine meets_bind (meets_recordFailures job faults _) fun _ => ?_
  exact meets_modify fun _ h => h.leave.of_done_eq rfl

theorem meets_openSource (faults : Faults) :
    Meets (fun desk => desk.done = []) (openSource faults : Work σ Unit) (fun _ => Faithful [])
      (Faithful []) := by
  have hstart : ∀ desk : Desk σ, desk.done = [] → Faithful [] desk := by
    intro desk hdone
    refine ⟨?_, by simp⟩
    rw [hdone]
    intro past items hpast
    exact absurd (List.prefix_nil.1 hpast) (by simp)
  refine Job.meets_openSource hstart ?_ ?_
  · intro desk hdone
    exact (hstart desk hdone).after_call (e := .cursorLoaded) rfl rfl
  · intro desk cursor hdone _
    exact (hstart desk hdone).after_call (e := .cursorLoaded) rfl rfl

theorem meets_readPage (feed : Feed) (faults : Faults) :
    Meets (Faithful []) (readPage feed faults : Work σ (Option (List Item)))
      (fun page? desk => match page? with
        | none => Faithful [] desk
        | some page => Faithful page desk)
      (Faithful []) := by
  -- an answer that is refused or empty writes nothing
  have hquiet : ∀ e : Effect, e.access = .fetch → e.summaries = [] := by
    intro e he
    cases e with
    | fetched limit answer => rfl
    | _ => cases he
  refine Job.meets_readPage (fun _ h => h) ?_ (fun _ h => h) ?_ ?_
  · intro desk e h he
    exact h.after_call (hquiet e he) rfl
  · intro desk e h he _
    exact h.after_call (hquiet e he) rfl
  · intro desk limit answer last h _ _ _
    exact h.turn rfl

theorem meets_storeCursor (faults : Faults) :
    Meets (Faithful []) (storeCursor faults : Work σ Unit) (fun _ => Faithful [])
      (Faithful []) := by
  refine Job.meets_storeCursor (fun _ h => h) ?_
  intro desk h
  exact h.after_call (e := .cursorStored _) rfl rfl

theorem meets_settlePages (job : Job σ) (feed : Feed) (faults : Faults) (fuel pages : Nat) :
    Meets (Faithful []) (job.settlePages feed faults fuel pages) (fun _ => Faithful [])
      (Faithful []) := by
  refine Job.meets_settlePages (meets_readPage feed faults) ?_
    (meets_settlePage job faults fuel) (fun _ => meets_storeCursor faults) (fun _ h => h) pages
  intro page desk h
  exact h.of_done_eq rfl

/-- However a run ends, its journal is faithful. -/
theorem runOn (job : Job σ) (feed : Feed) (faults : Faults) (fuel : Nat) (desk : Desk σ) :
    Faithful [] (job.runOn feed faults fuel desk).2 := by
  have hwork : Meets _ (job.work feed faults fuel) _ (Faithful []) :=
    meets_work (meets_openSource faults) (meets_settlePages job feed faults fuel fuel)
  have hend := hwork desk.cleared rfl
  rw [Job.runOn]
  rcases hresult : (job.work feed faults fuel).run desk.cleared with ⟨_ | report, desk'⟩
  · rw [hresult] at hend
    exact hend
  · rw [hresult] at hend
    exact hend.1

end Faithful

/-! ## Summaries with notes -/

/-- Each summary is written with its item as a page before it held the item, note included. So when
no item of the pages carries a note, no summary does. -/
theorem Job.summaries_as_read (job : Job σ) (feed : Feed) (faults : Faults) (fuel : Nat)
    (desk : Desk σ) :
    let journal := (job.runOn feed faults fuel desk).2.done
    SummariesAsRead journal ∧
      ((∀ item ∈ readBy journal, item.failure = none) →
        ∀ s ∈ summarizedBy journal, s.item.failure = none) := by
  intro journal
  have hasRead : SummariesAsRead journal := (Faithful.runOn job feed faults fuel desk).asRead
  refine ⟨hasRead, ?_⟩
  intro hnotes s hs
  exact hnotes s.item (hasRead.mem_readBy hs)

namespace Reread

/-- A post whose note tells that an earlier run got no summary of it. -/
def post : Item :=
  { id := 1, title := "a post", content := "about it", timestamp := .epoch
    failure := some { message := "late", kind := .timeout, wholeBatch := true, batchSize := 1 } }

/-- Summarizes each post by its title. -/
def titles : Provider Unit := fun _ state items =>
  ({ millis := 0, result := .answered (items.map fun i => (i.id, .summary { text := i.title })) },
    state)

def job : Job Unit :=
  { settings := {}, packer := .withCounter {} .characters, provider := titles, today := .epoch }

def desk : Desk Unit :=
  { source := .ofList [post]
    paging := { pager := { name := "daily", settings := {} }, store := .empty }
    provider := () }

end Reread

open Reread in
/-- The post is summarized now, and written with the note that it failed. -/
theorem Job.summarized_with_note :
    summarizedBy (job.runOn desk.source.feed (fun _ _ => none) 30 desk).2.done =
      [⟨post, { text := "a post" }⟩] ∧ post.failure ≠ none := by
  decide +kernel

end Precis
