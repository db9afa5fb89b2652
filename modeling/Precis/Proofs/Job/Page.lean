import Precis.Proofs.Job.Parts
import Precis.Proofs.Job.Settlement
import Precis.Proofs.Packing.Segments
import Precis.Proofs.Retry.Queue

/-!
# What settling a page adds

`Wrote` says which summaries and failed items a part of the work has added to the journal. A page
that is settled is divided into both (`meets_settlePage`), each of its items is written once
(`written_perm`), and the retry queue follows what was written (`Settled.entries`).
-/

namespace Precis

open Job Settlement Time

variable {σ : Type}

/-! ## What a part of the work adds -/

/-- The work wrote these summaries and these failed items, read nothing, and left the pager and the
report alone. -/
structure Wrote (summaries : List SummarizedItem) (failed : List Item) (desk desk' : Desk σ) :
    Prop where
  paging_eq : desk'.paging = desk.paging
  report_eq : desk'.report = desk.report
  read_eq : readBy desk'.done = readBy desk.done
  summaries_eq : summarizedBy desk'.done = summarizedBy desk.done ++ summaries
  failures_eq : failedBy desk'.done = failedBy desk.done ++ failed
  inOrder : (∀ e ∈ desk.done, e.InOrder) → ∀ e ∈ desk'.done, e.InOrder

namespace Wrote

variable {desk desk' desk'' : Desk σ} {summaries summaries' : List SummarizedItem}
  {failed failed' : List Item}

/-- Work beside the journal writes nothing. -/
theorem of_done_eq (hpaging : desk'.paging = desk.paging) (hreport : desk'.report = desk.report)
    (hdone : desk'.done = desk.done) : Wrote [] [] desk desk' := by
  refine ⟨hpaging, hreport, ?_, ?_, ?_, ?_⟩
  · rw [hdone]
  · rw [hdone, List.append_nil]
  · rw [hdone, List.append_nil]
  · rw [hdone]
    exact id

theorem trans (h : Wrote summaries failed desk desk') (h' : Wrote summaries' failed' desk' desk'') :
    Wrote (summaries ++ summaries') (failed ++ failed') desk desk'' := by
  refine ⟨h'.paging_eq.trans h.paging_eq, h'.report_eq.trans h.report_eq,
    h'.read_eq.trans h.read_eq, ?_, ?_, fun horder => h'.inOrder (h.inOrder horder)⟩
  · rw [h'.summaries_eq, h.summaries_eq, List.append_assoc]
  · rw [h'.failures_eq, h.failures_eq, List.append_assoc]

/-- Quiet work before. -/
theorem quiet_trans (h : Wrote [] [] desk desk') (h' : Wrote summaries failed desk' desk'') :
    Wrote summaries failed desk desk'' := h.trans h'

/-- Quiet work after. -/
theorem trans_quiet (h : Wrote summaries failed desk desk') (h' : Wrote [] [] desk' desk'') :
    Wrote summaries failed desk desk'' := by
  have hboth := h.trans h'
  rw [List.append_nil, List.append_nil] at hboth
  exact hboth

/-- What is counted has no part in it. -/
theorem of_report_eq (h : Wrote summaries failed desk desk') {report report' : JobReport}
    (heq : report' = report) :
    Wrote summaries failed { desk with report } { desk' with report := report' } :=
  ⟨h.paging_eq, heq, h.read_eq, h.summaries_eq, h.failures_eq, h.inOrder⟩

/-- One call that reads nothing. -/
theorem of_call {e : Effect} (hread : e.read = []) (horder : e.InOrder)
    (hpaging : desk'.paging = desk.paging) (hreport : desk'.report = desk.report)
    (hdone : desk'.done = desk.done ++ [e]) : Wrote e.summaries e.failures desk desk' := by
  refine ⟨hpaging, hreport, ?_, ?_, ?_, ?_⟩
  · rw [hdone, readBy_concat, hread, List.append_nil]
  · rw [hdone, summarizedBy_concat]
  · rw [hdone, failedBy_concat]
  · intro hbefore
    rw [hdone, List.forall_mem_append, List.forall_mem_singleton]
    exact ⟨hbefore, horder⟩

/-- One call that reads and writes no items. -/
theorem of_quiet_call {e : Effect}
    (he : e.read = [] ∧ e.summaries = [] ∧ e.failures = []) (hpaging : desk'.paging = desk.paging)
    (hreport : desk'.report = desk.report) (hdone : desk'.done = desk.done ++ [e]) :
    Wrote [] [] desk desk' := by
  obtain ⟨hread, hsummaries, hfailures⟩ := he
  have horder : e.InOrder := by
    rw [Effect.InOrder, hsummaries, hfailures]
    exact ⟨List.Pairwise.nil, List.Pairwise.nil⟩
  have h := of_call hread horder hpaging hreport hdone
  rw [hsummaries, hfailures] at h
  exact h

end Wrote

/-! ## The parts of settling a page -/

/-- Settling the page of these outcomes took the desk from one state to the other. -/
structure Settled (job : Job σ) (page : List Item) (successes : List SummarizedItem)
    (failures : List Failure) (desk desk' : Desk σ) : Prop where
  retryable_eq : ∀ f ∈ failures, f.retryable = f.kind.retryable
  wrote : Wrote (summarizedItems page successes)
    (failedItems page (summarizedItems page successes) failures)
    { desk with report := desk'.report } desk'
  retries_eq : desk'.retries = (RetryStore.recordFailures job.settings.retry job.today
    (RetryStore.recordSuccesses desk.retries
      ((summarizedItems page successes).map (·.item.id))).2 failures).2
  itemsRead_eq : desk'.report.itemsRead = desk.report.itemsRead
  summarized_eq : desk'.report.summarized
    = desk.report.summarized + (summarizedItems page successes).length
  failed_eq : desk'.report.failed = desk.report.failed
    + (failedItems page (summarizedItems page successes) failures).length

namespace Settled

variable {desk : Desk σ}

theorem meets_dispatch (job : Job σ) (fuel : Nat) (requests : List Request) :
    Meets (· = desk) (job.dispatch fuel requests)
      (fun results desk' => List.Forall₂ Request.Gets requests results ∧ Wrote [] [] desk desk' ∧
        desk'.retries = desk.retries) (fun _ => True) := by
  refine Job.meets_dispatch (fun _ _ => trivial) ?_
  rintro _ rfl r hgets
  exact ⟨hgets, Wrote.of_done_eq rfl rfl rfl, rfl⟩

/-- Summaries are written in one call, and their entries are dropped one by one. -/
theorem meets_keepSummaries (faults : Faults) {summaries : List SummarizedItem}
    (horder : Ascending (summaries.map (·.item))) :
    Meets (· = desk) (keepSummaries faults summaries : Work σ Unit)
      (fun _ desk' => Wrote summaries [] desk desk' ∧
        desk'.retries = (RetryStore.recordSuccesses desk.retries (summaries.map (·.item.id))).2)
      (fun _ => True) := by
  let left : List SummarizedItem → Desk σ → Prop := fun rest desk' =>
    Wrote summaries [] desk desk' ∧
      (RetryStore.recordSuccesses desk'.retries (rest.map (·.item.id))).2
        = (RetryStore.recordSuccesses desk.retries (summaries.map (·.item.id))).2
  refine Job.meets_keepSummaries left ?_ ?_ ?_ (fun _ _ => trivial) (fun _ _ _ => trivial)
  · -- nothing to write, so no call is made
    rintro _ rfl hnone
    show Wrote summaries [] _ _ ∧ _
    rw [hnone]
    exact ⟨Wrote.of_done_eq rfl rfl rfl, rfl⟩
  · rintro _ rfl
    exact ⟨Wrote.of_call (e := .summariesWritten summaries) rfl ⟨horder, List.Pairwise.nil⟩ rfl rfl
      rfl, rfl⟩
  · -- dropping an entry writes no item, and leaves one entry less to drop
    rintro s rest desk₁ ⟨hwrote, hretries⟩
    refine ⟨hwrote.trans_quiet ?_, ?_⟩
    · exact Wrote.of_quiet_call (e := .retryDropped s.item.id) ⟨rfl, rfl, rfl⟩ rfl rfl rfl
    · rw [← hretries, List.map_cons, RetryStore.recordSuccesses_cons]

theorem meets_keepFailures (faults : Faults) {failed : List Item} (horder : Ascending failed) :
    Meets (· = desk) (keepFailures faults failed : Work σ Unit)
      (fun _ desk' => Wrote [] failed desk desk' ∧ desk'.retries = desk.retries)
      (fun _ => True) := by
  refine Job.meets_keepFailures ?_ ?_ fun _ _ => trivial
  · rintro _ rfl hnone
    rw [hnone]
    exact ⟨Wrote.of_done_eq rfl rfl rfl, rfl⟩
  · rintro _ rfl
    exact ⟨Wrote.of_call (e := .failuresWritten failed) rfl ⟨List.Pairwise.nil, horder⟩ rfl rfl rfl,
      rfl⟩

/-- All failures of a page are recorded as the queue does it, in their order. -/
theorem meets_recordFailures (job : Job σ) (faults : Faults) (failures : List Failure) :
    Meets (· = desk) (failures.foldlM (job.recordFailure faults) ({} : RetryReport))
      (fun _ desk' => Wrote [] [] desk desk' ∧ desk'.retries
        = (RetryStore.recordFailures job.settings.retry job.today desk.retries failures).2)
      (fun _ => True) := by
  let left : List Failure → Desk σ → Prop := fun rest desk' => Wrote [] [] desk desk' ∧
    (RetryStore.recordFailures job.settings.retry job.today desk'.retries rest).2
      = (RetryStore.recordFailures job.settings.retry job.today desk.retries failures).2
  refine Meets.weaken (b := left failures)
    (Job.meets_recordFailures left ?_ ?_ fun _ _ _ => trivial) ?_ fun _ _ h => h
  · -- reading an entry leaves the queue as it is
    rintro f rest desk₁ ⟨hwrote, hretries⟩
    refine ⟨hwrote.trans_quiet ?_, hretries⟩
    exact Wrote.of_quiet_call (e := .retryRead f.item.id) ⟨rfl, rfl, rfl⟩ rfl rfl rfl
  · rintro f rest desk₁ v ⟨hwrote, hretries⟩ rfl
    refine ⟨hwrote.trans_quiet (Wrote.of_quiet_call ?_ rfl rfl rfl), ?_⟩
    · -- whether the entry is put back or dropped, no item is written
      rw [verdictEffect]
      split
      · exact ⟨rfl, rfl, rfl⟩
      · exact ⟨rfl, rfl, rfl⟩
    · rw [← hretries, RetryStore.recordFailures_cons]
      rfl
  · rintro _ rfl
    exact ⟨Wrote.of_done_eq rfl rfl rfl, rfl⟩

theorem flatMap_requests (batches : List Batch) :
    (requests batches).flatMap (·.items) = batches.flatMap (·.items) := by
  rw [requests, List.flatMap_map, ← List.flatMap_map (f := Prod.fst) (g := Batch.items),
    List.zipIdx_map_fst]

/-- What fails stands in the order of the page. -/
theorem ascending_failedItems {page : List Item} (hpage : Ascending page)
    (summaries : List SummarizedItem) (failures : List Failure) :
    Ascending (failedItems page summaries failures) := by
  rw [Ascending, failedItems, List.pairwise_map]
  exact hpage.sublist List.filter_sublist

/-- Each item of a page is written once, but for the note of its failure. -/
theorem written_perm {page sent : List Item} {successes : List SummarizedItem}
    {failures : List Failure} (hids : (page.map (·.id)).Nodup)
    (hsent : sent.map (·.id) = page.map (·.id)) (hdivides : Divides sent successes failures) :
    ((summarizedItems page successes).map (·.item.unmarked)
      ++ (failedItems page (summarizedItems page successes) failures).map (·.unmarked)).Perm
        (page.map (·.unmarked)) := by
  have hpage := (summarizedItems_perm hids hsent hdivides).map (·.unmarked)
  rw [List.map_append, List.map_map] at hpage
  rw [failedItems, List.map_map]
  exact hpage

/-- A page that is settled is divided into summaries and failures, which are written and
recorded. -/
theorem meets_settlePage (job : Job σ) (faults : Faults) (fuel : Nat) {page : List Item}
    (hids : (page.map (·.id)).Nodup) (hpage : Ascending page) :
    Meets (· = desk) (job.settlePage faults fuel page)
      (fun _ desk' => ∃ sent successes failures, sent.map (·.id) = page.map (·.id) ∧
        Divides sent successes failures ∧ Settled job page successes failures desk desk')
      (fun _ => True) := by
  rw [settlePage]
  refine meets_bind (m := fun batches desk₁ => desk₁ = desk ∧ job.packer.pack page = some batches)
    ?_ fun batches => ?_
  · refine meets_pack (fun _ _ => trivial) ?_
    rintro _ batches rfl hpack
    exact ⟨rfl, hpack⟩
  -- the items that are sent are those of the page, packed
  refine meets_intro fun desk₀ ⟨hdesk, hpack⟩ => ?_
  rw [hdesk]
  refine meets_bind (m := fun _ desk₁ => Wrote [] [] { desk with report := desk₁.report } desk₁ ∧
    desk₁.retries = desk.retries ∧ desk₁.report.itemsRead = desk.report.itemsRead ∧
    desk₁.report.summarized = desk.report.summarized ∧ desk₁.report.failed = desk.report.failed)
    ?_ fun _ => ?_
  · refine meets_modify ?_
    rintro _ rfl
    exact ⟨Wrote.of_done_eq rfl rfl rfl, rfl, rfl, rfl, rfl⟩
  refine meets_intro fun desk₁ ⟨hwrote₁, hretries₁, hread₁, hsummarized₁, hfailed₁⟩ => ?_
  refine meets_bind (meets_dispatch job fuel _) fun results => ?_
  refine meets_intro fun desk₂ ⟨hgets, hwrote₂, hretries₂⟩ => ?_
  have hdivides := Dispatch.divides_results hgets
  have hretryable := Dispatch.retryable_results hgets
  rw [flatMap_requests] at hdivides
  have hsent := Packer.ids_pack hpack
  dsimp only
  generalize results.flatMap (·.outcome.successes) = successes at hdivides ⊢
  generalize results.flatMap (·.outcome.failures) = failures at hdivides hretryable ⊢
  have horder := hpage.sublist (summarizedItems_sublist hids hsent hdivides)
  refine meets_bind (meets_keepSummaries faults horder) fun _ => ?_
  refine meets_intro fun desk₃ ⟨hwrote₃, hretries₃⟩ => ?_
  refine meets_bind (meets_keepFailures faults (ascending_failedItems hpage _ failures)) fun _ => ?_
  refine meets_intro fun desk₄ ⟨hwrote₄, hretries₄⟩ => ?_
  refine meets_bind (meets_recordFailures job faults failures) fun _ => ?_
  refine meets_modify fun desk₅ ⟨hwrote₅, hretries₅⟩ => ⟨_, _, _, hsent, hdivides, ?_⟩
  -- all the parts together, from the first count to the last
  have hwrote :=
    hwrote₁.quiet_trans (hwrote₂.quiet_trans ((hwrote₃.trans hwrote₄).trans_quiet hwrote₅))
  rw [List.append_nil, List.nil_append] at hwrote
  refine ⟨hretryable, hwrote.of_report_eq rfl, ?_, ?_, ?_, ?_⟩
  · show desk₅.retries = _
    rw [hretries₅, hretries₄, hretries₃, hretries₂, hretries₁]
  · show desk₅.report.itemsRead = _
    rw [hwrote.report_eq, hread₁]
  · show desk₅.report.summarized + _ = _
    rw [hwrote.report_eq, hsummarized₁]
  · show desk₅.report.failed + _ = _
    rw [hwrote.report_eq, hfailed₁]

/-- Summarized items have no entry, each item that is written as failed has the one that follows
from its entry `before`, and the entries of other items stay. -/
theorem entries {job : Job σ} {page sent : List Item} {successes : List SummarizedItem}
    {failures : List Failure} {desk' : Desk σ} {before : RetryStore}
    (h : Settled job page successes failures desk desk') (hids : (page.map (·.id)).Nodup)
    (hsent : sent.map (·.id) = page.map (·.id)) (hdivides : Divides sent successes failures)
    (hbefore : before.Valid)
    (hsame : ∀ item ∈ page, desk.retries.get? item.id = before.get? item.id) :
    (∀ s ∈ summarizedItems page successes, desk'.retries.get? s.item.id = none) ∧
    (∀ f ∈ failedItems page (summarizedItems page successes) failures,
      ∃ note, f.failure = some note ∧ desk'.retries.get? f.id
        = job.settings.retry.entryAfter job.today f.id note.kind.retryable note
          (before.get? f.id)) ∧
    ∀ k, k ∉ page.map (·.id) → desk'.retries.get? k = desk.retries.get? k := by
  have hperm := ids_perm hsent hdivides
  rw [← map_id_summarizedItems page successes] at hperm
  obtain ⟨_, hfailures, hdisjoint⟩ := List.nodup_append.1 (hperm.nodup_iff.2 hids)
  have hmem := fun k => (hperm.mem_iff (a := k)).symm
  simp only [List.mem_append] at hmem
  rw [h.retries_eq]
  have hstore := RetryStore.get?_recordSuccesses desk.retries
    ((summarizedItems page successes).map (·.item.id))
  generalize (RetryStore.recordSuccesses desk.retries _).2 = store at hstore ⊢
  -- an item that failed has no summary, so its entry is still the one before
  have hentry : ∀ f ∈ failures, store.get? f.item.id = before.get? f.item.id := by
    intro f hf
    have hid := List.mem_map_of_mem (f := (·.item.id)) hf
    obtain ⟨item, hitem, heq⟩ := List.mem_map.1 ((hmem f.item.id).2 (Or.inr hid))
    rw [hstore, if_neg fun hsummarized => hdisjoint _ hsummarized _ hid rfl, ← heq]
    exact hsame item hitem
  obtain ⟨hrecorded, hother⟩ := RetryStore.get?_recordFailures job.settings.retry job.today store
    hfailures (by
      intro f hf e he
      rw [hentry f hf] at he
      exact hbefore.keyed _ e he)
  refine ⟨?_, ?_, ?_⟩
  · -- its entry was dropped, and no failure has its id
    intro s hs
    have hid := List.mem_map_of_mem (f := (·.item.id)) hs
    rw [hother _ fun hfailed => hdisjoint _ hid _ hfailed rfl, hstore, if_pos hid]
  · -- one failure has its id, and the entry follows from that one
    intro written hwritten
    obtain ⟨item, hitem, rfl⟩ := List.mem_map.1 hwritten
    obtain ⟨f, hf, hid, hnote⟩ := exists_failure_of_mem_unsettled hsent hdivides hitem
    refine ⟨noteFor failures item, rfl, ?_⟩
    show Table.get? _ item.id = _
    have hkind : f.note.kind.retryable = f.retryable := (h.retryable_eq f hf).symm
    rw [hnote, hkind, ← hid, hrecorded f hf, hentry f hf]
    exact Verdict.entry?_of fun e he => hbefore.bounded _ e he
  · -- neither dropped nor recorded
    intro k hk
    rw [hmem, not_or] at hk
    rw [hother k hk.2, hstore, if_neg hk.1]

end Settled

end Precis
