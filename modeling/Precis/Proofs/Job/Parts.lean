import Precis.Proofs.Dispatch.Conservation
import Precis.Proofs.Job.Journal
import Precis.Proofs.Job.Work
import Precis.Proofs.Source.Reading

/-!
# The parts of a run

One rule for each part of the work of a run. A rule names the calls of its part, each with the desk
that the call leaves, so a proof about runs says what a call does to its assertion and never opens a
part.
-/

namespace Precis.Job

variable {σ : Type} {before stopped : Desk σ → Prop} {faults : Faults}

/-! ## Settling a page -/

/-- A page is packed into batches, or the work ends. -/
theorem meets_pack {after : List Batch → Desk σ → Prop} {job : Job σ} {page : List Item}
    (hfail : ∀ desk, before desk → stopped desk)
    (hdone : ∀ desk batches, before desk → job.packer.pack page = some batches →
      after batches desk) :
    Meets before (job.pack page) after stopped := by
  rw [pack]
  split
  · exact meets_throw hfail
  · rename_i batches hpack
    exact meets_pure fun desk h => hdone desk batches h hpack

/-- Requests that are sent get one result each. -/
theorem meets_dispatch {after : List Result → Desk σ → Prop} {job : Job σ} {fuel : Nat}
    {requests : List Request} (hfail : ∀ desk, before desk → stopped desk)
    (hdone : ∀ desk, before desk → ∀ r : Dispatch.Report Float σ,
      List.Forall₂ Request.Gets requests r.results →
      after r.results { desk with
        limiter := r.world.limiter
        provider := r.world.provider
        now := r.now
        log := desk.log ++ r.world.log }) :
    Meets before (job.dispatch fuel requests) after stopped := by
  refine meets_get_bind fun desk hdesk => ?_
  dsimp only
  -- the work ends when the steps run out, and with an overflow
  have hthrow : ∀ stop : Stop,
      Meets (· = desk) (throw stop : Work σ (List Result)) after stopped := by
    intro stop
    apply meets_throw
    rintro _ rfl
    exact hfail _ hdesk
  split
  · exact hthrow .outOfSteps
  · exact hthrow _
  · rename_i r hrun
    refine meets_bind (m := fun _ => after r.results) ?_ fun _ => ?_
    · exact meets_set (hdone desk hdesk r (Dispatch.forall₂_results hrun))
    · exact meets_pure fun _ h => h

/-- Summaries are written in one call, and then their entries are dropped one by one. -/
theorem meets_keepSummaries {summaries : List SummarizedItem}
    (left : List SummarizedItem → Desk σ → Prop)
    (hnone : ∀ desk, before desk → summaries = [] → left [] desk)
    (hwrite : ∀ desk, before desk → left summaries { desk with
      done := desk.done ++ [.summariesWritten summaries]
      writer := desk.writer.writeSummaries summaries })
    (hdrop : ∀ s rest desk, left (s :: rest) desk → left rest { desk with
      done := desk.done ++ [.retryDropped s.item.id]
      retries := desk.retries.erase s.item.id })
    (hfail : ∀ desk, before desk → stopped desk)
    (hfail' : ∀ rest desk, left rest desk → stopped desk) :
    Meets before (keepSummaries faults summaries) (fun _ => left []) stopped := by
  rw [keepSummaries]
  split
  · rename_i hempty
    exact meets_pure fun desk h => hnone desk h (List.isEmpty_iff.1 hempty)
  · refine meets_call_modify_bind (m := left summaries) hfail hwrite ?_
    refine meets_forM left (fun s rest => ?_) summaries
    exact meets_call_modify (hfail' (s :: rest)) (hdrop s rest)

/-- Failed items are written in one call. -/
theorem meets_keepFailures {items : List Item} {after : Desk σ → Prop}
    (hnone : ∀ desk, before desk → items = [] → after desk)
    (hwrite : ∀ desk, before desk → after { desk with
      done := desk.done ++ [.failuresWritten items]
      writer := desk.writer.writeFailures items })
    (hfail : ∀ desk, before desk → stopped desk) :
    Meets before (keepFailures faults items) (fun _ => after) stopped := by
  rw [keepFailures]
  split
  · rename_i hempty
    exact meets_pure fun desk h => hnone desk h (List.isEmpty_iff.1 hempty)
  · exact meets_call_modify hfail hwrite

/-- Failures are recorded one by one: the entry is read where a retry may help, and the verdict is
carried out. -/
theorem meets_recordFailures {job : Job σ} {failures : List Failure}
    (left : List Failure → Desk σ → Prop)
    (hread : ∀ f rest desk, left (f :: rest) desk →
      left (f :: rest) { desk with done := desk.done ++ [.retryRead f.item.id] })
    (hverdict : ∀ f rest desk v, left (f :: rest) desk →
      v = Verdict.of job.settings.retry job.today f (desk.retries.get? f.item.id) →
      left rest { desk with
        done := desk.done ++ [verdictEffect v f.item.id]
        retries := v.apply f.item.id desk.retries })
    (hfail : ∀ rest desk, left rest desk → stopped desk) :
    Meets (left failures) (failures.foldlM (job.recordFailure faults) ({} : RetryReport))
      (fun _ => left []) stopped := by
  refine meets_foldlM (fun _ => left) ?_ _ failures
  intro report f rest
  have hcarry : Meets (left (f :: rest))
      (do
        let desk ← get
        let v := Verdict.of job.settings.retry job.today f (desk.retries.get? f.item.id)
        call faults (verdictEffect v f.item.id)
        modify fun desk => { desk with retries := v.apply f.item.id desk.retries }
        return report.add v : Work σ RetryReport)
      (fun _ => left rest) stopped := by
    refine meets_get_bind fun desk h => ?_
    refine meets_call_modify_bind (m := left rest) ?_ ?_ (meets_pure fun _ h => h)
    · rintro _ rfl
      exact hfail _ _ h
    · rintro _ rfl
      exact hverdict f rest _ _ h rfl
  rw [recordFailure]
  split
  · -- another attempt may help, so the entry is read first
    refine meets_bind (m := fun _ => left (f :: rest)) ?_ fun _ => hcarry
    exact meets_call (hfail _) (hread f rest)
  · exact hcarry

/-! ## Opening, reading and storing -/

/-- The source is opened at its start or at the stored cursor. -/
theorem meets_openSource {after : Desk σ → Prop} (hfail : ∀ desk, before desk → stopped desk)
    (hrefused : ∀ desk, before desk → stopped { desk with done := desk.done ++ [.cursorLoaded] })
    (hdone : ∀ desk cursor, before desk → (desk.paging.stored = none ∧ cursor = Cursor.start ∨
        ∃ text, desk.paging.stored = some text ∧ Cursor.ofCheckpoint? text = some cursor) →
      after { desk with
        done := desk.done ++ [.cursorLoaded]
        paging := desk.paging.openedAt cursor }) :
    Meets before (openSource faults) (fun _ => after) stopped := by
  refine meets_bind (m := fun _ desk' => ∃ desk, before desk ∧
    desk' = { desk with done := desk.done ++ [.cursorLoaded] }) ?_ fun _ => ?_
  · exact meets_call hfail fun desk h => ⟨desk, h, rfl⟩
  · refine meets_paged ?_ ?_
    · rintro _ problem paging ⟨desk, h, rfl⟩ hreopen
      rcases Paging.reopen_cases hreopen with ⟨_, _, rfl⟩ | ⟨_, hresult, _⟩
      · exact hrefused desk h
      · cases hresult
    · rintro _ _ paging ⟨desk, h, rfl⟩ hreopen
      rcases Paging.reopen_cases hreopen with ⟨_, hresult, _⟩ | ⟨cursor, _, rfl, hcursor⟩
      · cases hresult
      · exact hdone desk cursor h hcursor

/-- A page is read while more may be read, is the answer up to the limit, and is in order. -/
theorem meets_readPage {feed : Feed} {after : Option (List Item) → Desk σ → Prop}
    (hfail : ∀ desk, before desk → stopped desk)
    (hrefused : ∀ desk e, before desk → e.access = .fetch →
      stopped { desk with done := desk.done ++ [e] })
    (hstop : ∀ desk, before desk → after none desk)
    (hlast : ∀ desk e, before desk → e.access = .fetch → e.read = [] →
      after none { desk with done := desk.done ++ [e] })
    (hturn : ∀ desk limit answer last, before desk →
      answer = feed desk.done desk.paging.pager.cursor limit →
      (answer.take limit).getLast? = some last →
      desk.paging.pager.inOrder (answer.take limit) = true →
      after (some (answer.take limit)) { desk with
        done := desk.done ++ [.fetched limit answer]
        paging := desk.paging.turned (answer.take limit) }) :
    Meets before (readPage feed faults) after stopped := by
  refine meets_get_bind fun desk h => ?_
  dsimp only
  split
  · -- the run has read as much as it may
    refine meets_pure ?_
    rintro _ rfl
    exact hstop _ h
  rename_i hlimit
  have hanswer := fun last => hturn desk desk.paging.pager.limit _ last h rfl
  generalize feed desk.done desk.paging.pager.cursor desk.paging.pager.limit = answer at hanswer ⊢
  refine meets_bind (m := fun _ desk' =>
    desk' = { desk with done := desk.done ++ [.fetched desk.paging.pager.limit answer] }) ?_
    fun _ => ?_
  · refine meets_call ?_ ?_
    · rintro _ rfl
      exact hfail _ h
    · rintro _ rfl
      rfl
  refine meets_paged ?_ ?_
  · rintro _ problem paging rfl hread
    rcases Paging.read_cases hlimit hread with ⟨_, _, rfl⟩ | ⟨_, hresult, _⟩ | ⟨_, _, hresult, _⟩
    · exact hrefused desk _ h rfl
    · cases hresult
    · cases hresult
  · rintro _ page? paging rfl hread
    rcases Paging.read_cases hlimit hread with
      ⟨_, hresult, _⟩ | ⟨hnil, hresult, rfl⟩ | ⟨last, hlast', hresult, horder, rfl⟩
    · cases hresult
    · -- the source has no more items
      cases hresult
      exact hlast desk _ h rfl hnil
    · cases hresult
      exact hanswer last hlast' horder

/-- The cursor is stored. -/
theorem meets_storeCursor {after : Desk σ → Prop} (hfail : ∀ desk, before desk → stopped desk)
    (hdone : ∀ desk, before desk → after { desk with
      done := desk.done ++ [.cursorStored desk.paging.pager.cursor.checkpoint]
      paging := desk.paging.saved }) :
    Meets before (storeCursor faults) (fun _ => after) stopped := by
  refine meets_get_bind fun desk h => ?_
  refine meets_bind (m := fun _ desk' => desk' =
    { desk with done := desk.done ++ [.cursorStored desk.paging.pager.cursor.checkpoint] }) ?_
    fun _ => ?_
  · refine meets_call ?_ ?_
    · rintro _ rfl
      exact hfail _ h
    · rintro _ rfl
      rfl
  refine meets_paged ?_ ?_
  · rintro _ problem paging _ hupdate
    cases hupdate
  · rintro _ _ paging rfl hupdate
    cases hupdate
    exact hdone desk h

/-! ## Whole runs -/

/-- Pages are read, counted, settled and stored one after the other. -/
theorem meets_settlePages {job : Job σ} {feed : Feed} {fuel : Nat} {ready after : Desk σ → Prop}
    {inWork c settled : List Item → Desk σ → Prop}
    (hread : Meets ready (readPage feed faults) (fun page? desk => match page? with
      | none => after desk
      | some page => inWork page desk) stopped)
    (hcount : ∀ page desk, inWork page desk → c page { desk with
      report := { desk.report with
        pages := desk.report.pages + 1
        itemsRead := desk.report.itemsRead + page.length } })
    (hsettle : ∀ page, Meets (c page) (job.settlePage faults fuel page)
      (fun _ => settled page) stopped)
    (hstore : ∀ page, Meets (settled page) (storeCursor faults) (fun _ => ready) stopped)
    (hfail : ∀ desk, ready desk → stopped desk) (pages : Nat) :
    Meets ready (job.settlePages feed faults fuel pages) (fun _ => after) stopped := by
  induction pages with
  | zero => exact meets_throw hfail
  | succ pages ih =>
    rw [settlePages]
    refine meets_bind hread fun page? => ?_
    cases page? with
    | none => exact meets_pure fun _ h => h
    | some page =>
      refine meets_bind (m := fun _ => c page) ?_ fun _ => ?_
      · exact meets_modify (hcount page)
      refine meets_bind (hsettle page) fun _ => ?_
      exact meets_bind (hstore page) fun _ => ih

/-- All work is opening the source and settling its pages; then the report is given. -/
theorem meets_work {job : Job σ} {feed : Feed} {fuel : Nat} {ready after : Desk σ → Prop}
    (hopen : Meets before (openSource faults) (fun _ => ready) stopped)
    (hpages : Meets ready (job.settlePages feed faults fuel fuel) (fun _ => after) stopped) :
    Meets before (job.work feed faults fuel) (fun report desk => after desk ∧ desk.report = report)
      stopped := by
  rw [work]
  refine meets_bind hopen fun _ => ?_
  refine meets_bind hpages fun _ => ?_
  refine meets_get_bind fun desk h => meets_pure ?_
  rintro _ rfl
  exact ⟨h, rfl⟩

end Precis.Job
