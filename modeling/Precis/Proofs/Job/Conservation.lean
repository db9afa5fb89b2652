import Precis.Proofs.Job.Page

/-!
# Nothing lost, nothing doubled

`runOn_accounts`: when a run comes to its end, every item that it read was handed to the writer
once, as it was read, and the retry queue agrees with what was written.

`Conserved` is the invariant of a run: all that was read is written, but for the page in work.
Reading a page puts it in work (`Conserved.turn`), and settling it leaves none in work
(`Conserved.settle`).
-/

namespace Precis

open Job Settlement Time

variable {σ : Type}

/-! ## The invariant between pages -/

/-- No two items that the source answers with have one id. -/
def Feed.Distinct (feed : Feed) : Prop :=
  ∀ history after limit history' after' limit', ∀ a ∈ feed history after limit,
    ∀ b ∈ feed history' after' limit', a.id = b.id → a = b

/-- The source in memory, when its items have distinct ids. -/
theorem Source.feed_distinct {items : List Item} (hids : (items.map (·.id)).Nodup) :
    (Source.ofList items).feed.Distinct := by
  have hmem : ∀ history after limit, ∀ item ∈ (Source.ofList items).feed history after limit,
      item ∈ items := by
    intro history after limit item hitem
    exact (Source.ofList_perm hids).subset (List.mem_filter.1 (List.mem_of_mem_take hitem)).1
  intro _ _ _ _ _ _ a ha b hb hid
  exact eq_of_id_eq hids (hmem _ _ _ a ha) (hmem _ _ _ b hb) hid

/-- The source answers with the item at some time. -/
def Feed.Has (feed : Feed) (item : Item) : Prop :=
  ∃ history after limit, item ∈ feed history after limit

/-- All that was read is written, but for the items of `page`, which are in work; the retry queue
agrees with what was written, given the entries `before` the run. -/
structure Conserved (job : Job σ) (feed : Feed) (before : RetryStore) (page : List Item)
    (desk : Desk σ) : Prop where
  fed : ∀ item ∈ readBy desk.done, feed.Has item
  passed : ∀ item ∈ readBy desk.done, desk.paging.pager.cursor.precedes item = false
  ascending : Ascending (readBy desk.done)
  pending : page.Sublist (readBy desk.done)
  handed : ((summarizedBy desk.done).map (·.item.unmarked) ++ (failedBy desk.done).map (·.unmarked)
    ++ page.map (·.unmarked)).Perm ((readBy desk.done).map (·.unmarked))
  asRead : ∀ s ∈ summarizedBy desk.done, s.item ∈ readBy desk.done
  inOrder : ∀ e ∈ desk.done, e.InOrder
  summarized_eq : desk.report.summarized = (summarizedBy desk.done).length
  failed_eq : desk.report.failed = (failedBy desk.done).length
  summarized : ∀ s ∈ summarizedBy desk.done, desk.retries.get? s.item.id = none
  failed : ∀ f ∈ failedBy desk.done, ∃ note, f.failure = some note ∧
    desk.retries.get? f.id = job.settings.retry.entryAfter job.today f.id note.kind.retryable note
      (before.get? f.id)
  untouched : ∀ id, id ∉ (summarizedBy desk.done).map (·.item.id) →
    id ∉ (failedBy desk.done).map (·.id) → desk.retries.get? id = before.get? id

namespace Conserved

variable {job : Job σ} {feed : Feed} {before : RetryStore} {page : List Item} {desk desk' : Desk σ}

/-- Items of a source that are read in ascending order have distinct ids. -/
theorem ids_nodup (h : Conserved job feed before page desk) (hfeed : feed.Distinct) :
    ((readBy desk.done).map (·.id)).Nodup := by
  rw [List.Nodup, List.pairwise_map]
  refine List.Pairwise.imp_of_mem ?_ h.ascending
  intro a b ha hb hlt hid
  obtain ⟨_, _, _, ha⟩ := h.fed a ha
  obtain ⟨_, _, _, hb⟩ := h.fed b hb
  rw [hfeed _ _ _ _ _ _ a ha b hb hid] at hlt
  exact Position.lt_irrefl _ hlt

/-- The ids of what was written and of the page in work are those of what was read. -/
theorem ids_perm (h : Conserved job feed before page desk) :
    ((summarizedBy desk.done).map (·.item.id) ++ (failedBy desk.done).map (·.id)
      ++ page.map (·.id)).Perm ((readBy desk.done).map (·.id)) := by
  have hids := h.handed.map (·.id)
  simp only [List.map_append, List.map_map] at hids
  exact hids

/-- The items of the page were not written before. -/
theorem not_written (h : Conserved job feed before page desk) (hfeed : feed.Distinct) {item : Item}
    (hitem : item ∈ page) : item.id ∉ (summarizedBy desk.done).map (·.item.id) ∧
      item.id ∉ (failedBy desk.done).map (·.id) := by
  have hnodup := h.ids_perm.nodup_iff.2 (h.ids_nodup hfeed)
  rw [List.nodup_append] at hnodup
  have hid := List.mem_map_of_mem (f := (·.id)) hitem
  refine ⟨?_, ?_⟩
  · intro hsummarized
    exact hnodup.2.2 _ (List.mem_append_left _ hsummarized) _ hid rfl
  · intro hfailed
    exact hnodup.2.2 _ (List.mem_append_right _ hfailed) _ hid rfl

/-- Work beside the journal, the store and the counts of what was written. -/
theorem of_eq (h : Conserved job feed before page desk) (hpaging : desk'.paging = desk.paging)
    (hdone : desk'.done = desk.done) (hretries : desk'.retries = desk.retries)
    (hsummarized : desk'.report.summarized = desk.report.summarized)
    (hfailed : desk'.report.failed = desk.report.failed) :
    Conserved job feed before page desk' := by
  obtain ⟨h1, h2, h3, h4, h5, h6, h7, h8, h9, h10, h11, h12⟩ := h
  constructor
  all_goals
    simp only [hpaging, hdone, hretries, hsummarized, hfailed]
    assumption

/-- Settling the page in work leaves none in work. -/
theorem settle (h : Conserved job feed before page desk) (hfeed : feed.Distinct)
    (hbefore : before.Valid) {sent : List Item} {successes : List SummarizedItem}
    {failures : List Failure} (hsent : sent.map (·.id) = page.map (·.id))
    (hdivides : Divides sent successes failures)
    (hsettled : Settled job page successes failures desk desk') :
    Conserved job feed before [] desk' := by
  have hids : (page.map (·.id)).Nodup := (h.ids_nodup hfeed).sublist (h.pending.map _)
  -- the entries of the page are those before the run
  have hentries : ∀ item ∈ page, desk.retries.get? item.id = before.get? item.id := by
    intro item hitem
    obtain ⟨hsummarized, hfailed⟩ := h.not_written hfeed hitem
    exact h.untouched item.id hsummarized hfailed
  obtain ⟨hsummarized, hfailed, hother⟩ :=
    hsettled.entries hids hsent hdivides hbefore hentries
  have hpage := summarizedItems_perm hids hsent hdivides
  have hread := hsettled.wrote.read_eq
  refine ⟨?_, ?_, ?_, List.nil_sublist _, ?_, ?_, hsettled.wrote.inOrder h.inOrder, ?_,
    ?_, ?_, ?_, ?_⟩
  · rw [hread]
    exact h.fed
  · rw [hread, hsettled.wrote.paging_eq]
    exact h.passed
  · rw [hread]
    exact h.ascending
  · -- what was in work is now among what is written
    rw [hread, hsettled.wrote.summaries_eq, hsettled.wrote.failures_eq]
    refine List.Perm.trans ?_ h.handed
    have hwritten := Settled.written_perm hids hsent hdivides
    rw [List.perm_iff_count] at hwritten ⊢
    intro item
    have hcount := hwritten item
    simp only [List.map_append, List.map_nil, List.append_nil, List.count_append] at hcount ⊢
    omega
  · rw [hread, hsettled.wrote.summaries_eq, List.forall_mem_append]
    refine ⟨h.asRead, ?_⟩
    intro s hs
    exact h.pending.subset (hpage.subset (List.mem_append_left _ (List.mem_map_of_mem hs)))
  · rw [hsettled.summarized_eq, h.summarized_eq, hsettled.wrote.summaries_eq, List.length_append]
  · rw [hsettled.failed_eq, h.failed_eq, hsettled.wrote.failures_eq, List.length_append]
  · -- entries of earlier pages: their items are not in this one
    rw [hsettled.wrote.summaries_eq, List.forall_mem_append]
    refine ⟨?_, hsummarized⟩
    intro s hs
    rw [hother _ ?_, h.summarized s hs]
    intro hmem
    obtain ⟨item, hitem, hid⟩ := List.mem_map.1 hmem
    exact (h.not_written hfeed hitem).1 (hid ▸ List.mem_map_of_mem hs)
  · rw [hsettled.wrote.failures_eq, List.forall_mem_append]
    refine ⟨?_, hfailed⟩
    intro f hf
    obtain ⟨note, hnote, hentry⟩ := h.failed f hf
    refine ⟨note, hnote, ?_⟩
    rw [hother _ ?_, hentry]
    intro hmem
    obtain ⟨item, hitem, hid⟩ := List.mem_map.1 hmem
    exact (h.not_written hfeed hitem).2 (hid ▸ List.mem_map_of_mem hf)
  · intro id hsummaries hfailures
    rw [hsettled.wrote.summaries_eq, List.map_append, List.mem_append, not_or] at hsummaries
    rw [hsettled.wrote.failures_eq, List.map_append, List.mem_append, not_or] at hfailures
    rw [hother id ?_, h.untouched id hsummaries.1 hfailures.1]
    -- an item of the page with this id would have been written
    intro hmem
    obtain ⟨item, hitem, rfl⟩ := List.mem_map.1 hmem
    rcases List.mem_append.1 (hpage.mem_iff.2 hitem) with hsummary | hfailure
    · obtain ⟨s, hs, rfl⟩ := List.mem_map.1 hsummary
      exact hsummaries.2 (List.mem_map_of_mem hs)
    · refine hfailures.2 (List.mem_map.2 ⟨_, List.mem_map.2 ⟨item, hfailure, rfl⟩, rfl⟩)

/-- A call that reads and writes no items. -/
theorem after_call {e : Effect} (h : Conserved job feed before page desk)
    (he : e.read = [] ∧ e.summaries = [] ∧ e.failures = [])
    (hcursor : desk'.paging.pager.cursor = desk.paging.pager.cursor)
    (hdone : desk'.done = desk.done ++ [e]) (hretries : desk'.retries = desk.retries)
    (hreport : desk'.report = desk.report) : Conserved job feed before page desk' := by
  obtain ⟨hread, hsummaries, hfailures⟩ := he
  obtain ⟨h1, h2, h3, h4, h5, h6, h7, h8, h9, h10, h11, h12⟩ := h
  constructor
  case inOrder =>
    rw [hdone, List.forall_mem_append, List.forall_mem_singleton, Effect.InOrder, hsummaries,
      hfailures]
    exact ⟨h7, List.Pairwise.nil, List.Pairwise.nil⟩
  all_goals
    simp only [hcursor, hdone, hretries, hreport, readBy_concat, summarizedBy_concat,
      failedBy_concat, hread, hsummaries, hfailures, List.append_nil]
    assumption

/-- A page that was read is in work. -/
theorem turn {answer : List Item} {limit : Nat} {last : Item}
    (h : Conserved job feed before [] desk) (hfed : ∀ item ∈ answer, feed.Has item)
    (hlast : (answer.take limit).getLast? = some last)
    (horder : desk.paging.pager.inOrder (answer.take limit) = true)
    (hcursor : desk'.paging.pager.cursor = desk.paging.pager.cursor.advance (answer.take limit))
    (hdone : desk'.done = desk.done ++ [.fetched limit answer])
    (hretries : desk'.retries = desk.retries) (hreport : desk'.report = desk.report) :
    Conserved job feed before (answer.take limit) desk' := by
  have hread : readBy desk'.done = readBy desk.done ++ answer.take limit := by
    rw [hdone, readBy_concat]
    rfl
  have hsummaries : summarizedBy desk'.done = summarizedBy desk.done := by
    rw [hdone, summarizedBy_concat]
    exact List.append_nil _
  have hfailures : failedBy desk'.done = failedBy desk.done := by
    rw [hdone, failedBy_concat]
    exact List.append_nil _
  obtain ⟨hascending, hprecedes⟩ := Pager.inOrder_iff.1 horder
  have hposition := Cursor.position_advance hlast desk.paging.pager.cursor
  constructor
  case fed =>
    rw [hread, List.forall_mem_append]
    exact ⟨h.fed, fun item hitem => hfed item (List.mem_of_mem_take hitem)⟩
  case passed =>
    rw [hread, hcursor, List.forall_mem_append]
    refine ⟨?_, ?_⟩
    · -- what was passed before stays passed: the page comes after the cursor
      intro item hitem
      obtain ⟨p, hp, hnot⟩ := Cursor.precedes_eq_false_iff.1 (h.passed item hitem)
      have hlt := (Cursor.precedes_iff hp last).1 (hprecedes last (List.mem_of_getLast? hlast))
      refine Cursor.precedes_eq_false_iff.2 ⟨_, hposition, ?_⟩
      intro hbefore
      exact hnot (Position.lt_trans hlt hbefore)
    · intro item hitem
      exact Cursor.precedes_eq_false_iff.2 ⟨_, hposition, not_lt_last hascending hlast hitem⟩
  case ascending =>
    rw [hread, Ascending, List.pairwise_append]
    refine ⟨h.ascending, hascending, ?_⟩
    intro a ha b hb
    obtain ⟨p, hp, hnot⟩ := Cursor.precedes_eq_false_iff.1 (h.passed a ha)
    have hlt := (Cursor.precedes_iff hp b).1 (hprecedes b hb)
    -- the cursor stands between the two
    rcases Position.lt_trichotomy a.position p with hap | hap | hap
    · exact Position.lt_trans hap hlt
    · rw [hap]
      exact hlt
    · exact absurd hap hnot
  case pending =>
    rw [hread]
    exact List.sublist_append_right _ _
  case handed =>
    have hhanded := h.handed
    rw [List.map_nil, List.append_nil] at hhanded
    rw [hread, hsummaries, hfailures, List.map_append]
    exact hhanded.append_right _
  case asRead =>
    rw [hread, hsummaries]
    exact fun s hs => List.mem_append_left _ (h.asRead s hs)
  case inOrder =>
    rw [hdone, List.forall_mem_append, List.forall_mem_singleton]
    exact ⟨h.inOrder, List.Pairwise.nil, List.Pairwise.nil⟩
  case summarized_eq => rw [hreport, hsummaries, h.summarized_eq]
  case failed_eq => rw [hreport, hfailures, h.failed_eq]
  case summarized =>
    rw [hsummaries, hretries]
    exact h.summarized
  case failed =>
    rw [hfailures, hretries]
    exact h.failed
  case untouched =>
    rw [hsummaries, hfailures, hretries]
    exact h.untouched

/-! ## A run -/

/-- Between two pages, all that was read is written and counted. -/
def Ready (job : Job σ) (feed : Feed) (before : RetryStore) (desk : Desk σ) : Prop :=
  Conserved job feed before [] desk ∧ desk.report.itemsRead = (readBy desk.done).length

theorem meets_openSource (faults : Faults) :
    Meets (fun desk => desk.done = [] ∧ desk.retries = before ∧ desk.report = {})
      (openSource faults : Work σ Unit) (fun _ => Ready job feed before) (fun _ => True) := by
  refine Job.meets_openSource (fun _ _ => trivial) (fun _ _ => trivial) ?_
  rintro desk cursor ⟨hdone, rfl, hreport⟩ _
  have hread : readBy (desk.done ++ [.cursorLoaded]) = [] := by rw [hdone]; rfl
  have hsummaries : summarizedBy (desk.done ++ [.cursorLoaded]) = [] := by rw [hdone]; rfl
  have hfailures : failedBy (desk.done ++ [.cursorLoaded]) = [] := by rw [hdone]; rfl
  refine ⟨?_, ?_⟩
  · constructor
    case inOrder =>
      rw [hdone, List.nil_append, List.forall_mem_singleton]
      exact ⟨List.Pairwise.nil, List.Pairwise.nil⟩
    all_goals simp [hread, hsummaries, hfailures, hreport, Ascending]
  · simp [hread, hreport]

/-- The items of a page that was read are in work, and not counted yet. -/
theorem meets_readPage (faults : Faults) :
    Meets (Ready job feed before) (readPage feed faults : Work σ (Option (List Item)))
      (fun page? desk => match page? with
        | none => Ready job feed before desk
        | some page => Conserved job feed before page desk ∧
            desk.report.itemsRead + page.length = (readBy desk.done).length)
      (fun _ => True) := by
  refine Job.meets_readPage (fun _ _ => trivial) (fun _ _ _ _ => trivial) ?_ ?_ ?_
  · exact fun _ h => h
  · -- nothing is left to read
    rintro desk e ⟨h, hcount⟩ he hnil
    have hquiet : e.read = [] ∧ e.summaries = [] ∧ e.failures = [] := by
      cases e with
      | fetched limit answer => exact ⟨hnil, rfl, rfl⟩
      | _ => cases he
    refine ⟨h.after_call hquiet rfl rfl rfl rfl, ?_⟩
    rw [readBy_concat, hnil, List.append_nil, hcount]
  · rintro desk limit answer last ⟨h, hcount⟩ hanswer hlast horder
    have hfed : ∀ item ∈ answer, feed.Has item := by
      rw [hanswer]
      exact fun _ hitem => ⟨_, _, _, hitem⟩
    refine ⟨h.turn hfed hlast horder rfl rfl rfl rfl, ?_⟩
    rw [readBy_concat, List.length_append, ← hcount]
    rfl

theorem meets_storeCursor (faults : Faults) :
    Meets (Ready job feed before) (storeCursor faults : Work σ Unit)
      (fun _ => Ready job feed before) (fun _ => True) := by
  refine Job.meets_storeCursor (fun _ _ => trivial) ?_
  rintro desk ⟨h, hcount⟩
  refine ⟨h.after_call (e := .cursorStored _) ⟨rfl, rfl, rfl⟩ rfl rfl rfl rfl, ?_⟩
  rw [readBy_concat, hcount]
  exact congrArg List.length (List.append_nil _).symm

/-- A page that is counted is settled. -/
theorem meets_settlePage (faults : Faults) (fuel : Nat) (hfeed : feed.Distinct)
    (hbefore : before.Valid) (page : List Item) :
    Meets (fun desk => Conserved job feed before page desk ∧
        desk.report.itemsRead = (readBy desk.done).length)
      (job.settlePage faults fuel page) (fun _ => Ready job feed before) (fun _ => True) := by
  refine meets_intro fun desk ⟨h, hcount⟩ => ?_
  have hids : (page.map (·.id)).Nodup := (h.ids_nodup hfeed).sublist (h.pending.map _)
  have hpage : Ascending page := h.ascending.sublist h.pending
  refine (Settled.meets_settlePage job faults fuel hids hpage).weaken (fun _ h => h) ?_
  rintro _ desk' ⟨sent, successes, failures, hsent, hdivides, hsettled⟩
  refine ⟨h.settle hfeed hbefore hsent hdivides hsettled, ?_⟩
  rw [hsettled.itemsRead_eq, hsettled.wrote.read_eq, hcount]

theorem meets_settlePages (faults : Faults) (fuel : Nat) (hfeed : feed.Distinct)
    (hbefore : before.Valid) (pages : Nat) :
    Meets (Ready job feed before) (job.settlePages feed faults fuel pages)
      (fun _ => Ready job feed before) (fun _ => True) := by
  refine Job.meets_settlePages (meets_readPage faults) ?_
    (meets_settlePage faults fuel hfeed hbefore) (fun _ => meets_storeCursor faults)
    (fun _ _ => trivial) pages
  rintro page desk ⟨h, hcount⟩
  exact ⟨h.of_eq rfl rfl rfl rfl rfl, hcount⟩

end Conserved

/-! ## What a run leaves -/

/-- A run that came to its end, told by what it reports and by the desk that it leaves. -/
structure Accounts (s : RetrySettings) (today : Timestamp) (before : RetryStore)
    (report : JobReport) (desk : Desk σ) : Prop where
  distinct : ((readBy desk.done).map (·.id)).Nodup
  /-- Each item that was read is written once: summarized or failed, and no item is written
  besides. -/
  handed : ((summarizedBy desk.done).map (·.item.unmarked)
    ++ (failedBy desk.done).map (·.unmarked)).Perm ((readBy desk.done).map (·.unmarked))
  asRead : ∀ summarized ∈ summarizedBy desk.done, summarized.item ∈ readBy desk.done
  noted : ∀ f ∈ failedBy desk.done, f.failure.isSome
  ascending : Ascending (readBy desk.done)
  inOrder : ∀ e ∈ desk.done, e.InOrder
  counted : report.itemsRead = (readBy desk.done).length ∧
    report.summarized = (summarizedBy desk.done).length ∧
    report.failed = (failedBy desk.done).length
  total : report.itemsRead = report.summarized + report.failed
  summarized : ∀ summarized ∈ summarizedBy desk.done, desk.retries.get? summarized.item.id = none
  permanent : ∀ f ∈ failedBy desk.done, ∀ note, f.failure = some note →
    note.kind.retryable = false → desk.retries.get? f.id = none
  enqueued : ∀ f ∈ failedBy desk.done, ∀ note, f.failure = some note →
    note.kind.retryable = true → before.get? f.id = none → desk.retries.get? f.id
      = some (RetryEntry.new f.id note.message note.kind s.maxRetries s.baseSpan today)
  exhausted : ∀ f ∈ failedBy desk.done, ∀ note, f.failure = some note →
    note.kind.retryable = true → ∀ e, before.get? f.id = some e → e.retries = e.maxRetries →
    desk.retries.get? f.id = none
  retried : ∀ f ∈ failedBy desk.done, ∀ note, f.failure = some note →
    note.kind.retryable = true → ∀ e, before.get? f.id = some e → e.retries ≠ e.maxRetries →
    ∃ next, desk.retries.get? f.id = some next ∧ next.retries.toNat = e.retries.toNat + 1 ∧
      next = (e.retried s.baseSpan today).withCause note.message note.kind
  untouched : ∀ id, id ∉ (readBy desk.done).map (·.id) → desk.retries.get? id = before.get? id

/-- Between pages the books are in order. -/
theorem Conserved.Ready.accounts {job : Job σ} {feed : Feed} {before : RetryStore} {desk : Desk σ}
    (h : Ready job feed before desk) (hfeed : feed.Distinct) (hbefore : before.Valid) :
    Accounts job.settings.retry job.today before desk.report desk := by
  obtain ⟨h, hcount⟩ := h
  have hhanded := h.handed
  rw [List.map_nil, List.append_nil] at hhanded
  have hentry : ∀ f ∈ failedBy desk.done, ∀ note, f.failure = some note → desk.retries.get? f.id
      = job.settings.retry.entryAfter job.today f.id note.kind.retryable note
        (before.get? f.id) := by
    intro f hf note hnote
    obtain ⟨note', hnote', hentry⟩ := h.failed f hf
    cases hnote.symm.trans hnote'
    exact hentry
  refine ⟨h.ids_nodup hfeed, hhanded, h.asRead, ?_, h.ascending, h.inOrder,
    ⟨hcount, h.summarized_eq, h.failed_eq⟩, ?_, h.summarized, ?_, ?_, ?_, ?_, ?_⟩
  · intro f hf
    obtain ⟨note, hnote, _⟩ := h.failed f hf
    rw [hnote]
    rfl
  · -- the counts add up since each item is written once
    have hlength := hhanded.length_eq
    rw [List.length_append, List.length_map, List.length_map, List.length_map] at hlength
    rw [hcount, h.summarized_eq, h.failed_eq, hlength]
  · intro f hf note hnote hkind
    rw [hentry f hf note hnote, RetrySettings.entryAfter.eq_def, hkind]
    rfl
  · intro f hf note hnote hkind hnone
    rw [hentry f hf note hnote, RetrySettings.entryAfter.eq_def, hkind, hnone]
    rfl
  · intro f hf note hnote hkind e he hretries
    rw [hentry f hf note hnote, RetrySettings.entryAfter.eq_def, hkind, he]
    dsimp only
    rw [if_pos rfl, if_neg (by rw [hretries]; exact UInt32.lt_irrefl _)]
  · -- a retry is left, and counting it does not reach the largest word
    intro f hf note hnote hkind e he hretries
    obtain ⟨hle, hmax⟩ := hbefore.bounded _ e he
    have hlt : e.retries < e.maxRetries := UInt32.lt_of_le_of_ne hle hretries
    refine ⟨_, ?_, ?_, rfl⟩
    · rw [hentry f hf note hnote, RetrySettings.entryAfter.eq_def, hkind, he]
      dsimp only
      rw [if_pos rfl, if_pos hlt]
    · rw [UInt32.lt_iff_toNat_lt] at hlt
      exact RetryEntry.toNat_retries_retried (by omega) job.settings.retry.baseSpan job.today
  · intro id hid
    have hids := h.ids_perm
    rw [List.map_nil, List.append_nil] at hids
    rw [← hids.mem_iff, List.mem_append, not_or] at hid
    exact h.untouched id hid.1 hid.2

/-- When a run comes to its end, each item that it read was handed to the writer once, as it was
read, and the retry queue agrees with what was written. -/
theorem Job.runOn_accounts (job : Job σ) (feed : Feed) (faults : Faults) (fuel : Nat)
    (desk : Desk σ) (hfeed : feed.Distinct) (hretries : desk.retries.Valid) {report : JobReport}
    (hrun : (job.runOn feed faults fuel desk).1 = .ok report) :
    Accounts job.settings.retry job.today desk.retries report
      (job.runOn feed faults fuel desk).2 := by
  have hwork : Meets _ (job.work feed faults fuel) _ fun _ => True :=
    meets_work (Conserved.meets_openSource faults)
      (Conserved.meets_settlePages faults fuel hfeed hretries fuel)
  have hend := hwork desk.cleared ⟨rfl, rfl, rfl⟩
  rw [runOn] at hrun ⊢
  rcases hresult : (job.work feed faults fuel).run desk.cleared with ⟨_ | report', desk'⟩
  · rw [hresult] at hrun
    cases hrun
  · rw [hresult] at hrun hend
    cases hrun
    obtain ⟨hready, rfl⟩ := hend
    exact hready.accounts hfeed hretries

/-! ## A page of mixed outcomes -/

namespace Mixed

/-- Four posts. -/
def posts : List Item :=
  [1, 2, 3, 4].map fun id => { id, title := "a post", content := "about it", timestamp := .epoch }

/-- Summarizes the first post, refuses the second, and is late with the last; of the third it says
nothing. -/
def provider : Provider Unit := fun _ state _ =>
  ({ millis := 0
     result := .answered
      [(1, .summary { text := "the first" }), (2, .failed "no" (some "blocked")),
        (4, .failed "late" (some "timeout"))] }, state)

/-- An entry after so many of three retries. -/
def entry (item : Int64) (retries : UInt32) : RetryEntry :=
  { item, reason := "late", kind := .timeout, retries, next := .epoch, maxRetries := 3
    created := .epoch }

def job : Job Unit :=
  { settings := {}, packer := .withCounter {} .characters, provider, today := .epoch }

/-- All posts are read in one page. The third has no retries left. -/
def desk : Desk Unit :=
  { source := .ofList posts
    paging := { pager := { name := "mixed", settings := { pageSize := 4 } }, store := .empty }
    retries := ⟨[(1, entry 1 2), (3, entry 3 3), (4, entry 4 1)]⟩
    provider := () }

def report : JobReport :=
  { pages := 1, itemsRead := 4, batches := 1, summarized := 1, failed := 3, enqueuedForRetry := 1 }

end Mixed

open Mixed in
theorem Job.runOn_accounts_mixed :
    desk.source.feed.Distinct ∧ desk.retries.Valid ∧
      (job.runOn desk.source.feed (fun _ _ => none) 30 desk).1 = .ok report ∧
      Accounts job.settings.retry job.today desk.retries report
        (job.runOn desk.source.feed (fun _ _ => none) 30 desk).2 := by
  have hids : (posts.map (·.id)).Nodup := by decide
  have hfeed : desk.source.feed.Distinct := Source.feed_distinct hids
  have hretries : desk.retries.Valid := RetryStore.valid_of_entries (by decide)
  have hrun : (job.runOn desk.source.feed (fun _ _ => none) 30 desk).1 = .ok report := by
    decide +kernel
  exact ⟨hfeed, hretries, hrun, Job.runOn_accounts job _ _ 30 desk hfeed hretries hrun⟩

open Mixed in
example : (job.runOn desk.source.feed (fun _ _ => none) 30 desk).2.retries.values.map
    (fun e => (e.item, e.retries)) = [(4, 2)] := by decide +kernel

end Precis
