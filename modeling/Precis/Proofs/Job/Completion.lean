import Precis.Proofs.Job.Outcome
import Precis.Proofs.Job.Page
import Precis.Proofs.Retry.Streak
import Precis.Proofs.Source.Reading

/-!
# Runs that come to their end

With a provider that answers by the item, with no limiter and no call that fails, a run comes to its
end in some number of steps, and more steps change nothing; or else it comes to a page that cannot
be packed (`Job.settlePages_ends`). `Ledger` is the invariant: of the items that the cursor has
passed the stores hold what their answers make of them, and of all others nothing. A page moves the
cursor and the stores together (`Ledger.turn`), so a run that reads nothing has passed all items.

The parts of a run are evaluated one after the other; what a part stores does not depend on the
number of steps.
-/

namespace Precis

open Time Settlement

variable {σ α β : Type}

/-- No call fails. -/
def noFaults : Faults := fun _ _ => none

namespace Job

/-! ## Parts of a run -/

theorem run_bind_of_ok {w : Work σ β} {f : β → Work σ α} {desk desk' : Desk σ} {b : β}
    (h : w.run desk = (.ok b, desk')) : (w >>= f).run desk = (f b).run desk' := by
  show (ExceptT.bindCont f (w.run desk).1) (w.run desk).2 = _
  rw [h]
  rfl

theorem run_bind_of_error {w : Work σ β} {f : β → Work σ α} {desk desk' : Desk σ} {stop : Stop}
    (h : w.run desk = (.error stop, desk')) : (w >>= f).run desk = (.error stop, desk') := by
  show (ExceptT.bindCont f (w.run desk).1) (w.run desk).2 = _
  rw [h]
  rfl

theorem run_call (e : Effect) (desk : Desk σ) :
    (call noFaults e : Work σ Unit).run desk = (.ok (), { desk with done := desk.done ++ [e] }) :=
  rfl

theorem run_count (change : JobReport → JobReport) (desk : Desk σ) :
    (count change : Work σ Unit).run desk = (.ok (), { desk with report := change desk.report }) :=
  rfl

/-- Entries are dropped one by one. -/
theorem run_dropRetries (summaries : List SummarizedItem) (desk : Desk σ) :
    ∃ done, (summaries.forM fun s => dropRetry noFaults s.item.id : Work σ PUnit).run desk
      = (.ok ⟨⟩, { desk with
          done
          retries :=
            (RetryStore.recordSuccesses desk.retries (summaries.map (·.item.id))).2 }) := by
  induction summaries generalizing desk with
  | nil => exact ⟨desk.done, rfl⟩
  | cons s rest ih =>
    have hdrop : (dropRetry noFaults s.item.id : Work σ Unit).run desk
        = (.ok (), { desk with
            done := desk.done ++ [.retryDropped s.item.id]
            retries := desk.retries.erase s.item.id }) := rfl
    obtain ⟨done, hrest⟩ := ih { desk with
      done := desk.done ++ [.retryDropped s.item.id]
      retries := desk.retries.erase s.item.id }
    refine ⟨done, (run_bind_of_ok hdrop).trans (hrest.trans ?_)⟩
    rw [List.map_cons, RetryStore.recordSuccesses_cons]

theorem run_keepSummaries (summaries : List SummarizedItem) (desk : Desk σ) :
    ∃ done, (keepSummaries noFaults summaries : Work σ Unit).run desk
      = (.ok (), { desk with
          done
          writer := desk.writer.writeSummaries summaries
          retries :=
            (RetryStore.recordSuccesses desk.retries (summaries.map (·.item.id))).2 }) := by
  rw [keepSummaries]
  split
  · -- no summaries: nothing is written, and there are no entries to drop
    rename_i hempty
    rw [List.isEmpty_iff.1 hempty]
    exact ⟨desk.done, rfl⟩
  · have hwrite : (modify fun desk => { desk with writer := desk.writer.writeSummaries summaries } :
        Work σ PUnit).run { desk with done := desk.done ++ [.summariesWritten summaries] }
          = (.ok ⟨⟩, { desk with
              done := desk.done ++ [.summariesWritten summaries]
              writer := desk.writer.writeSummaries summaries }) := rfl
    obtain ⟨done, hdrop⟩ := run_dropRetries summaries { desk with
      done := desk.done ++ [.summariesWritten summaries]
      writer := desk.writer.writeSummaries summaries }
    refine ⟨done, ?_⟩
    rw [run_bind_of_ok (run_call _ desk), run_bind_of_ok hwrite, hdrop]

theorem run_keepFailures (items : List Item) (desk : Desk σ) :
    ∃ done, (keepFailures noFaults items : Work σ Unit).run desk
      = (.ok (), { desk with done, writer := desk.writer.writeFailures items }) := by
  rw [keepFailures]
  split
  · -- no failures: nothing is written
    rename_i hempty
    rw [List.isEmpty_iff.1 hempty]
    exact ⟨desk.done, rfl⟩
  · exact ⟨_, rfl⟩

theorem run_recordFailure (job : Job σ) (report : RetryReport) (f : Failure) (desk : Desk σ) :
    ∃ report' done, (job.recordFailure noFaults report f).run desk
      = (.ok report', { desk with
          done
          retries :=
            (RetryStore.recordFailure job.settings.retry job.today desk.retries f).2 }) := by
  rw [recordFailure]
  -- the entry is read only for a failure that is worth another attempt
  split
  · exact ⟨_, _, rfl⟩
  · exact ⟨_, _, rfl⟩

theorem run_recordFailures (job : Job σ) (failures : List Failure) (report : RetryReport)
    (desk : Desk σ) :
    ∃ report' done, (failures.foldlM (job.recordFailure noFaults) report).run desk
      = (.ok report', { desk with
          done
          retries := (RetryStore.recordFailures job.settings.retry job.today desk.retries
            failures).2 }) := by
  induction failures generalizing report desk with
  | nil => exact ⟨report, desk.done, rfl⟩
  | cons f rest ih =>
    obtain ⟨report', done, hfirst⟩ := job.run_recordFailure report f desk
    obtain ⟨report'', done', hrest⟩ := ih report' _
    refine ⟨report'', done', ?_⟩
    rw [List.foldlM_cons, run_bind_of_ok hfirst, hrest, RetryStore.recordFailures_cons]

/-- Requests are sent within steps enough. -/
theorem run_dispatch {job : Job σ} {requests : List Request} {desk : Desk σ}
    {report : Dispatch.Report Float σ} {fuel : Nat}
    (h : Dispatch.run job.settings.dispatch job.provider fuel
      { limiter := desk.limiter, provider := desk.provider } desk.now requests
        = some (.ok report)) :
    (job.dispatch fuel requests).run desk = (.ok report.results, { desk with
      limiter := report.world.limiter
      provider := report.world.provider
      now := report.now
      log := desk.log ++ report.world.log }) := by
  have hget : (get : Work σ (Desk σ)).run desk = (.ok desk, desk) := rfl
  rw [dispatch, run_bind_of_ok hget]
  dsimp only
  rw [h]
  rfl

/-! ## A page -/

theorem run_pack {job : Job σ} {page : List Item} {batches : List Batch}
    (h : job.packer.pack page = some batches) (desk : Desk σ) :
    (job.pack page).run desk = (.ok batches, desk) := by
  rw [pack, h]
  rfl

/-- A page that cannot be packed ends the work. -/
theorem run_settlePage_of_unpacked {job : Job σ} {page : List Item}
    (h : job.packer.pack page = none) (faults : Faults) (fuel : Nat) (desk : Desk σ) :
    (job.settlePage faults fuel page).run desk = (.error (.overflowed .sum), desk) := by
  have hpack : (job.pack page).run desk = (.error (.overflowed .sum), desk) := by
    rw [pack, h]
    rfl
  exact run_bind_of_error hpack

/-- When its requests end, a page is settled: the stores take what the results say of its items. -/
theorem run_settlePage {job : Job σ} {page : List Item} {batches : List Batch}
    (hpack : job.packer.pack page = some batches) (desk : Desk σ)
    (report : Dispatch.Report Float σ) :
    ∃ settled : Desk σ,
      (∀ fuel, Dispatch.run job.settings.dispatch job.provider fuel
          { limiter := desk.limiter, provider := desk.provider } desk.now
          (requests batches) = some (.ok report) →
        (job.settlePage noFaults fuel page).run desk = (.ok (), settled)) ∧
      settled.stores = desk.stores.settled job.settings.retry job.today page
        (report.results.flatMap (·.outcome.successes))
        (report.results.flatMap (·.outcome.failures)) ∧
      settled.source = desk.source ∧ settled.paging = desk.paging ∧
      settled.limiter = report.world.limiter ∧
      settled.report.itemsRead = desk.report.itemsRead := by
  let successes := report.results.flatMap (·.outcome.successes)
  let failures := report.results.flatMap (·.outcome.failures)
  let counted : Desk σ := { desk with report := { desk.report with
    batches := desk.report.batches + batches.length
    truncatedItems := desk.report.truncatedItems
      + (batches.filter (·.truncated)).length } }
  let sent : Desk σ := { counted with
    limiter := report.world.limiter
    provider := report.world.provider
    now := report.now
    log := counted.log ++ report.world.log }
  let summaries := summarizedItems page successes
  obtain ⟨done, hkept⟩ := run_keepSummaries summaries sent
  let kept : Desk σ := { sent with
    done
    writer := sent.writer.writeSummaries summaries
    retries := (RetryStore.recordSuccesses sent.retries (summaries.map (·.item.id))).2 }
  let failed := failedItems page summaries failures
  obtain ⟨done', hwritten⟩ := run_keepFailures failed kept
  let written : Desk σ := { kept with done := done', writer := kept.writer.writeFailures failed }
  obtain ⟨retries, done'', hrecorded⟩ := job.run_recordFailures failures {} written
  refine ⟨{ written with
    done := done''
    retries := (RetryStore.recordFailures job.settings.retry job.today written.retries failures).2
    report := { written.report with
      summarized := written.report.summarized + summaries.length
      failed := written.report.failed + failed.length
      enqueuedForRetry := written.report.enqueuedForRetry + retries.scheduled } },
    ?_, rfl, rfl, rfl, rfl, rfl⟩
  intro fuel hrun
  have hdispatch : (job.dispatch fuel (requests batches)).run counted
      = (.ok report.results, sent) := run_dispatch hrun
  rw [settlePage, run_bind_of_ok (run_pack hpack desk), run_bind_of_ok (run_count _ desk),
    run_bind_of_ok hdispatch]
  dsimp only
  rw [run_bind_of_ok hkept, run_bind_of_ok hwritten, run_bind_of_ok hrecorded]
  exact run_count _ _

/-- A page that can be packed is settled within steps enough, and its items get their answers. -/
theorem settlePage_ends {job : Job σ} {answer : Answer} {page : List Item} {batches : List Batch}
    (hpack : job.packer.pack page = some batches) (desk : Desk σ)
    (hanswers : job.provider.Answers answer) (hlimiter : desk.limiter = none)
    (hids : (page.map (·.id)).Nodup) :
    ∃ sent successes failures desk' enough, Answered answer page sent successes failures ∧
      (∀ fuel, enough ≤ fuel → (job.settlePage noFaults fuel page).run desk = (.ok (), desk')) ∧
      desk'.stores = desk.stores.settled job.settings.retry job.today page successes failures ∧
      desk'.source = desk.source ∧ desk'.paging = desk.paging ∧ desk'.limiter = none ∧
      desk'.report.itemsRead = desk.report.itemsRead := by
  obtain ⟨report, ⟨enough, hends⟩, hnone, hresults⟩ :=
    Dispatch.exists_ends_answered (w := { limiter := desk.limiter, provider := desk.provider })
      job.settings.dispatch (requests batches) hanswers hlimiter desk.now
  obtain ⟨hsuccesses, hfailures⟩ := Dispatch.answered_results hresults
  rw [Settled.flatMap_requests] at hsuccesses hfailures
  obtain ⟨settled, hrun, hstores, hsource, hpaging, hleft, hread⟩ :=
    run_settlePage hpack desk report
  exact ⟨_, _, _, settled, enough, ⟨hids, Packer.ids_pack hpack, hsuccesses, hfailures⟩,
    fun fuel hfuel => hrun fuel (hends fuel hfuel), hstores, hsource, hpaging,
    hleft.trans hnone, hread⟩

/-! ## Opening, reading and storing -/

theorem run_paged {change : Paging → Except Problem α × Paging} {desk : Desk σ} {a : α}
    {paging : Paging} (h : change desk.paging = (.ok a, paging)) :
    (paged change).run desk = (.ok a, { desk with paging }) := by
  have hget : (get : Work σ (Desk σ)).run desk = (.ok desk, desk) := rfl
  rw [paged, run_bind_of_ok hget]
  dsimp only
  rw [h]
  rfl

theorem run_openSource (desk : Desk σ) {cursor : Cursor}
    (h : desk.paging.storedCursor = some cursor) :
    ∃ done, (openSource noFaults).run desk
      = (.ok (), { desk with done, paging := desk.paging.openedAt cursor }) := by
  refine ⟨desk.done ++ [.cursorLoaded], ?_⟩
  rw [openSource, run_bind_of_ok (run_call .cursorLoaded desk)]
  exact run_paged (Paging.reopen_of_storedCursor h)

theorem run_storeCursor (desk : Desk σ) :
    ∃ done, (storeCursor noFaults).run desk =
      (.ok (), { desk with done, paging := desk.paging.saved }) :=
  ⟨_, rfl⟩

/-- A page is made of the first items after the cursor. -/
theorem run_readPage {source : Source} (hsource : Ascending source.items) (desk : Desk σ)
    {page : List Item} (hpage : page
      = (source.items.filter desk.paging.pager.cursor.precedes).take desk.paging.pager.limit) :
    ∃ done, (readPage source.feed noFaults).run desk =
      if page = [] then (.ok none, { desk with done })
      else (.ok (some page), { desk with done, paging := desk.paging.turned page }) := by
  have hget : (get : Work σ (Desk σ)).run desk = (.ok desk, desk) := rfl
  rw [readPage, run_bind_of_ok hget]
  dsimp only
  by_cases hlimit : desk.paging.pager.limit = 0
  · -- the run has read as much as it may
    have hnil : page = [] := by rw [hpage, hlimit, List.take_zero]
    refine ⟨desk.done, ?_⟩
    rw [if_pos hlimit, if_pos hnil]
    rfl
  · have hread := Paging.read_source hsource hlimit hpage
    refine ⟨desk.done ++ [.fetched desk.paging.pager.limit
      (source.feed desk.done desk.paging.pager.cursor desk.paging.pager.limit)], ?_⟩
    rw [if_neg hlimit, run_bind_of_ok (run_call _ desk)]
    by_cases hnil : page = []
    · -- nothing comes after the cursor
      rw [if_pos hnil] at hread ⊢
      exact run_paged hread
    · -- the cursor is at the end of the page
      rw [if_neg hnil] at hread ⊢
      exact run_paged hread

end Job

/-! ## The items ahead of the cursor -/

section Ahead

variable {items page : List Item} {cursor : Cursor} {n : Nat} {last : Item}

theorem mem_of_mem_page (hpage : page = (items.filter cursor.precedes).take n) {item : Item}
    (hitem : item ∈ page) : item ∈ items ∧ cursor.precedes item = true := by
  rw [hpage] at hitem
  exact List.mem_filter.1 (List.mem_of_mem_take hitem)

variable (hitems : Ascending items) (hpage : page = (items.filter cursor.precedes).take n)
  (hlast : page.getLast? = some last)

include hitems hpage hlast

/-- After a page the items ahead are those that were not read. -/
theorem ahead_advance :
    items.filter (cursor.advance page).precedes = (items.filter cursor.precedes).drop n := by
  rw [hpage] at hlast ⊢
  exact Cursor.filter_precedes_advance hitems hlast

/-- A page that was read is no longer ahead. -/
theorem length_ahead_advance :
    (items.filter (cursor.advance page).precedes).length + page.length
      = (items.filter cursor.precedes).length ∧ 0 < page.length := by
  refine ⟨?_, List.length_pos_of_mem (List.mem_of_getLast? hlast)⟩
  rw [ahead_advance hitems hpage hlast, hpage, List.length_drop, List.length_take]
  omega

/-- What is ahead after a page was ahead before. -/
theorem precedes_of_precedes_advance {item : Item} (hitem : item ∈ items)
    (h : (cursor.advance page).precedes item = true) : cursor.precedes item = true := by
  have hmoved : item ∈ items.filter (cursor.advance page).precedes := List.mem_filter.2 ⟨hitem, h⟩
  rw [ahead_advance hitems hpage hlast] at hmoved
  exact (List.mem_filter.1 (List.mem_of_mem_drop hmoved)).2

/-- Of the items ahead the page has those that are passed with it. -/
theorem mem_page_iff (hids : (items.map (·.id)).Nodup) {item : Item} (hitem : item ∈ items)
    (hprecedes : cursor.precedes item = true) :
    item ∈ page ↔ (cursor.advance page).precedes item = false := by
  have hahead : item ∈ items.filter cursor.precedes := List.mem_filter.2 ⟨hitem, hprecedes⟩
  have hnodup : (items.filter cursor.precedes).Nodup :=
    List.Nodup.filter _ (List.Nodup.of_map _ hids)
  have hmoved : (cursor.advance page).precedes item = true
      ↔ item ∈ (items.filter cursor.precedes).drop n := by
    rw [← ahead_advance hitems hpage hlast, List.mem_filter]
    exact ⟨fun h => ⟨hitem, h⟩, fun h => h.2⟩
  rw [← Bool.not_eq_true, hmoved, hpage]
  rw [← List.take_append_drop n (items.filter cursor.precedes)] at hahead hnodup
  constructor
  · intro htake hdrop
    exact (List.nodup_append.1 hnodup).2.2 _ htake _ hdrop rfl
  · intro hdrop
    exact (List.mem_append.1 hahead).resolve_right hdrop

end Ahead

/-! ## The ledger -/

namespace Writer

variable {w : Writer}

theorem ordered_writeSummaries (items : List SummarizedItem) (hs : w.summaries.Ordered)
    (hf : w.failures.Ordered) :
    (w.writeSummaries items).summaries.Ordered ∧ (w.writeSummaries items).failures.Ordered := by
  induction items generalizing w with
  | nil => exact ⟨hs, hf⟩
  | cons s rest ih => exact ih (hs.insert _ _) (hf.erase _)

theorem ordered_writeFailures (items : List Item) (hs : w.summaries.Ordered)
    (hf : w.failures.Ordered) :
    (w.writeFailures items).summaries.Ordered ∧ (w.writeFailures items).failures.Ordered := by
  induction items generalizing w with
  | nil => exact ⟨hs, hf⟩
  | cons item rest ih => exact ih hs (hf.insert _ _)

end Writer

/-- What is stored is listed by ascending key. -/
structure Stores.Neat (stores : Stores) : Prop where
  summaries : stores.writer.summaries.Ordered
  failures : stores.writer.failures.Ordered
  retries : stores.retries.Tidy

namespace Stores

variable {stores : Stores}

theorem neat_empty : Neat {} where
  summaries := Table.ordered_empty
  failures := Table.ordered_empty
  retries := RetryStore.tidy_empty

theorem Neat.settled (h : stores.Neat) (s : RetrySettings) (today : Timestamp) (page : List Item)
    (successes : List SummarizedItem) (failures : List Failure) :
    (stores.settled s today page successes failures).Neat := by
  obtain ⟨hs, hf⟩ :=
    Writer.ordered_writeSummaries (summarizedItems page successes) h.summaries h.failures
  obtain ⟨hs, hf⟩ :=
    Writer.ordered_writeFailures (failedItems page (summarizedItems page successes) failures) hs hf
  exact ⟨hs, hf, (h.retries.recordSuccesses _).recordFailures _⟩

end Stores

/-- Of the items that the cursor has passed the stores hold what their answers make of them, and of
everything else they hold nothing. -/
structure Ledger (answer : Answer) (s : RetrySettings) (items : List Item) (cursor : Cursor)
    (stores : Stores) : Prop where
  neat : stores.Neat
  passed : ∀ item ∈ items, cursor.precedes item = false → stores.kept item.id = answer.kept item s
  untouched : ∀ id, (∀ item ∈ items, item.id = id → cursor.precedes item = true) →
    stores.kept id = {}

namespace Ledger

variable {answer : Answer} {s : RetrySettings} {items : List Item} {cursor : Cursor}
  {stores : Stores}

theorem start : Ledger answer s items Cursor.start {} where
  neat := Stores.neat_empty
  passed item _ h := by cases h
  untouched id _ := rfl

/-- Where the cursor is stored has no part in it. -/
theorem withCursors (h : Ledger answer s items cursor stores) (cursors : Table String String) :
    Ledger answer s items cursor { stores with cursors } :=
  ⟨⟨h.neat.summaries, h.neat.failures, h.neat.retries⟩, h.passed, h.untouched⟩

/-- A page moves the cursor and the stores together. -/
theorem turn (h : Ledger answer s items cursor stores) (hitems : Ascending items)
    (hids : (items.map (·.id)).Nodup) {n : Nat} {page sent : List Item} {last : Item}
    {successes : List SummarizedItem} {failures : List Failure}
    (hpage : page = (items.filter cursor.precedes).take n) (hlast : page.getLast? = some last)
    (hanswered : Answered answer page sent successes failures) (today : Timestamp) :
    Ledger answer s items (cursor.advance page)
      (stores.settled s today page successes failures) := by
  -- an item after the cursor is on the page, or after the cursor that was moved
  have hsplit : ∀ item ∈ items, cursor.precedes item = true →
      (item ∈ page ↔ (cursor.advance page).precedes item = false) :=
    fun _ => mem_page_iff hitems hpage hlast hids
  have hnew : ∀ item ∈ page, stores.kept item.id = {} := by
    intro item hitem
    obtain ⟨hsource, hprecedes⟩ := mem_of_mem_page hpage hitem
    apply h.untouched
    intro other hother hid
    rw [eq_of_id_eq hids hother hsource hid]
    exact hprecedes
  obtain ⟨hsettled, hothers⟩ := Stores.kept_settled s today hanswered hnew
  constructor
  case neat => exact h.neat.settled s today page successes failures
  case passed =>
    intro item hitem hpassed
    by_cases hprecedes : cursor.precedes item = true
    · -- the item is on the page, so it was settled with it
      exact hsettled item ((hsplit item hitem hprecedes).2 hpassed)
    · -- the item was passed before, and is not on the page
      rw [hothers, h.passed item hitem (Bool.eq_false_iff.2 hprecedes)]
      intro hid
      obtain ⟨other, hother, heq⟩ := List.mem_map.1 hid
      obtain ⟨hsource, hbefore⟩ := mem_of_mem_page hpage hother
      rw [eq_of_id_eq hids hsource hitem heq] at hbefore
      exact hprecedes hbefore
  case untouched =>
    intro id hahead
    have hbefore : ∀ item ∈ items, item.id = id → cursor.precedes item = true :=
      fun item hitem hid => precedes_of_precedes_advance hitems hpage hlast hitem
        (hahead item hitem hid)
    rw [hothers, h.untouched id hbefore]
    intro hid
    obtain ⟨item, hitem, heq⟩ := List.mem_map.1 hid
    obtain ⟨hsource, hprecedes⟩ := mem_of_mem_page hpage hitem
    have hpassed := (hsplit item hsource hprecedes).1 hitem
    rw [hahead item hsource heq] at hpassed
    cases hpassed

end Ledger

/-! ## Whole runs -/

/-- The items that the cursor of a desk has not passed. -/
def Desk.ahead (desk : Desk σ) (items : List Item) : List Item :=
  items.filter desk.paging.pager.cursor.precedes

/-- Between two pages the cursor is the stored one, and the stores agree with it. -/
structure Underway (job : Job σ) (answer : Answer) (source : Source) (desk : Desk σ) : Prop where
  source_eq : desk.source = source
  limiter : desk.limiter = none
  settings : desk.paging.pager.settings = job.settings.reader
  stored : desk.paging.storedCursor = some desk.paging.pager.cursor
  ledger : Ledger answer job.settings.retry source.items desk.paging.pager.cursor desk.stores

/-- Nothing more was read, or more was read and less is left. -/
def Advanced (items : List Item) (desk desk' : Desk σ) : Prop :=
  (desk'.paging = desk.paging ∧ desk'.report.itemsRead = desk.report.itemsRead) ∨
    (desk.report.itemsRead < desk'.report.itemsRead ∧
      (desk'.ahead items).length < (desk.ahead items).length)

namespace Job

variable {job : Job σ} {answer : Answer} {source : Source}

/-- A page that can be packed is read, counted and settled, and the cursor is stored after it. -/
theorem turn_ends (hanswers : job.provider.Answers answer) (hsource : Ascending source.items)
    (hids : (source.items.map (·.id)).Nodup) {desk : Desk σ} (h : Underway job answer source desk)
    {batches : List Batch}
    (hsome : (desk.ahead source.items).take desk.paging.pager.limit ≠ [])
    (hpack : job.packer.pack ((desk.ahead source.items).take desk.paging.pager.limit)
      = some batches) :
    ∃ saved enough, (∀ fuel pages, enough ≤ fuel →
        (job.settlePages source.feed noFaults fuel (pages + 1)).run desk
          = (job.settlePages source.feed noFaults fuel pages).run saved) ∧
      Underway job answer source saved ∧ desk.report.itemsRead < saved.report.itemsRead ∧
      (saved.ahead source.items).length < (desk.ahead source.items).length := by
  obtain ⟨page, hpage⟩ : ∃ page, page = (desk.ahead source.items).take desk.paging.pager.limit :=
    ⟨_, rfl⟩
  rw [← hpage] at hsome hpack
  obtain ⟨done, hread⟩ := run_readPage hsource desk hpage
  rw [if_neg hsome] at hread
  obtain ⟨last, hlast⟩ := Option.isSome_iff_exists.1 (List.getLast?_isSome.2 hsome)
  obtain ⟨hless, hpos⟩ := length_ahead_advance hsource hpage hlast
  have hpageIds : (page.map (·.id)).Nodup := by
    refine hids.sublist (List.Sublist.map _ ?_)
    rw [hpage]
    exact (List.take_sublist _ _).trans List.filter_sublist
  let counted : Desk σ := { desk with
    done
    paging := desk.paging.turned page
    report := { desk.report with
      pages := desk.report.pages + 1
      itemsRead := desk.report.itemsRead + page.length } }
  obtain ⟨sent, successes, failures, settled, enough, hanswered, hsettle, hstores, hsettledSource,
    hpaging, hlimiter, hcount⟩ := settlePage_ends hpack counted hanswers h.limiter hpageIds
  obtain ⟨done', hstore⟩ := run_storeCursor settled
  refine ⟨{ settled with done := done', paging := settled.paging.saved }, enough, ?_, ?_, ?_, ?_⟩
  · intro fuel pages hfuel
    rw [settlePages, run_bind_of_ok hread]
    dsimp only
    rw [run_bind_of_ok (run_count _ _), run_bind_of_ok (hsettle fuel hfuel), run_bind_of_ok hstore]
  · have hledger := h.ledger.turn hsource hids hpage hlast hanswered job.today
    constructor
    case source_eq => exact hsettledSource.trans h.source_eq
    case limiter => exact hlimiter
    case settings =>
      show settled.paging.pager.settings = _
      rw [hpaging]
      exact h.settings
    case stored => exact settled.paging.storedCursor_saved
    case ledger =>
      have hcursor : settled.paging.pager.cursor = desk.paging.pager.cursor.advance page := by
        rw [hpaging]
        rfl
      have hsaved := hledger.withCursors settled.paging.saved.store
      show Ledger _ _ _ settled.paging.pager.cursor _
      rw [hcursor]
      rw [show desk.stores.settled job.settings.retry job.today page successes failures
        = { settled.stores with cursors := desk.paging.store } by rw [hstores]; rfl] at hsaved
      exact hsaved
  · show desk.report.itemsRead < settled.report.itemsRead
    rw [hcount]
    exact Nat.lt_add_of_pos_right hpos
  · show (source.items.filter settled.paging.pager.cursor.precedes).length < _
    rw [hpaging, Desk.ahead, ← hless]
    exact Nat.lt_add_of_pos_right hpos

/-- A page that cannot be packed is read and counted, and the work ends there. -/
theorem turn_stops (hsource : Ascending source.items) {desk : Desk σ}
    (hsome : (desk.ahead source.items).take desk.paging.pager.limit ≠ [])
    (hpack : job.packer.pack ((desk.ahead source.items).take desk.paging.pager.limit) = none) :
    ∃ stopped, ∀ fuel pages, (job.settlePages source.feed noFaults fuel (pages + 1)).run desk
      = (.error (.overflowed .sum), stopped) := by
  obtain ⟨page, hpage⟩ : ∃ page, page = (desk.ahead source.items).take desk.paging.pager.limit :=
    ⟨_, rfl⟩
  rw [← hpage] at hsome hpack
  obtain ⟨done, hread⟩ := run_readPage hsource desk hpage
  rw [if_neg hsome] at hread
  refine ⟨{ desk with
    done
    paging := desk.paging.turned page
    report := { desk.report with
      pages := desk.report.pages + 1
      itemsRead := desk.report.itemsRead + page.length } }, fun fuel pages => ?_⟩
  rw [settlePages, run_bind_of_ok hread]
  dsimp only
  rw [run_bind_of_ok (run_count _ _)]
  exact run_bind_of_error (run_settlePage_of_unpacked hpack noFaults fuel _)

/-- With steps enough pages are read and settled until no more are to be had, or until one cannot be
packed. -/
theorem settlePages_ends (hanswers : job.provider.Answers answer) (hsource : Ascending source.items)
    (hids : (source.items.map (·.id)).Nodup) (desk : Desk σ) (h : Underway job answer source desk) :
    ∃ result desk' enough, (∀ fuel pages, enough ≤ fuel → enough ≤ pages →
        (job.settlePages source.feed noFaults fuel pages).run desk = (result, desk')) ∧
      ((result = .ok () ∧ Underway job answer source desk' ∧ Advanced source.items desk desk' ∧
          (desk'.ahead source.items).take desk'.paging.pager.limit = []) ∨
        (result = .error (.overflowed .sum) ∧
          ∃ page, page.Sublist source.items ∧ job.packer.pack page = none)) := by
  -- by induction on what is ahead of the cursor
  generalize hlength : (desk.ahead source.items).length = left
  induction left using Nat.strongRecOn generalizing desk with
  | ind left ih =>
    by_cases hnil : (desk.ahead source.items).take desk.paging.pager.limit = []
    · -- nothing is read, and the work is done
      obtain ⟨done, hread⟩ := run_readPage hsource desk rfl
      rw [if_pos (by exact hnil)] at hread
      refine ⟨.ok (), { desk with done }, 1, ?_, Or.inl ⟨rfl,
        ⟨h.source_eq, h.limiter, h.settings, h.stored, h.ledger⟩, Or.inl ⟨rfl, rfl⟩, hnil⟩⟩
      intro fuel pages _ hpages
      obtain ⟨pages, rfl⟩ := Nat.exists_eq_add_of_le' hpages
      rw [settlePages, run_bind_of_ok hread]
      rfl
    cases hpack : job.packer.pack ((desk.ahead source.items).take desk.paging.pager.limit) with
    | none =>
      -- the page cannot be packed, and the run stops with it
      obtain ⟨stopped, hstops⟩ := turn_stops hsource hnil hpack
      refine ⟨_, stopped, 1, ?_, Or.inr ⟨rfl, _, ?_, hpack⟩⟩
      · intro fuel pages _ hpages
        obtain ⟨pages, rfl⟩ := Nat.exists_eq_add_of_le' hpages
        exact hstops fuel pages
      · exact (List.take_sublist _ _).trans List.filter_sublist
    | some batches =>
      obtain ⟨saved, enough, hturn, hsaved, hcount, hless⟩ :=
        turn_ends hanswers hsource hids h hnil hpack
      obtain ⟨result, desk', enough', hrest, hend⟩ := ih _ (hlength ▸ hless) saved hsaved rfl
      refine ⟨result, desk', max enough enough' + 1, ?_, ?_⟩
      · intro fuel pages hfuel hpages
        obtain ⟨pages, rfl⟩ := Nat.exists_eq_add_of_le' (Nat.le_trans (Nat.le_add_left 1 _) hpages)
        rw [hturn fuel pages (by omega)]
        exact hrest fuel pages (by omega) (by omega)
      · -- what comes after the page comes after it in the whole work too
        refine hend.imp_left ?_
        rintro ⟨rfl, hunderway, hadvanced, hlast⟩
        refine ⟨rfl, hunderway, Or.inr ?_, hlast⟩
        -- what the rest of the run did comes after this page
        rcases hadvanced with ⟨hpaging, hsame⟩ | ⟨hmore, hfewer⟩
        · rw [hsame, Desk.ahead, hpaging]
          exact ⟨hcount, hless⟩
        · exact ⟨Nat.lt_trans hcount hmore, Nat.lt_trans hfewer hless⟩

end Job

end Precis
