import Precis.Dispatch.Basic
import Precis.Job.Settlement
import Precis.Job.Writer
import Precis.Overflow
import Precis.Packing.Batch
import Precis.Retry.Queue
import Precis.Settings.Basic
import Precis.Source.Memory
import Precis.Source.Paging

/-!
# Jobs

A job reads its source page by page. The items of a page are packed and sent; the summaries are
written and taken out of the retry queue, the failed items are written and put into it, and only
then the cursor is stored. A run ends at the first call of a store or of the source that fails:
`Faults` says which calls do, and a call that fails changes nothing. An overflow ends it too. A
source is known by its answers, a `Feed`; the source in memory is one of them.

A run need not end, since a provider need not, so it is given by a number of steps. The desk that it
leaves is known also when the steps run out, and lists the calls that were made until then.
-/

namespace Precis

open Time

/-- A call of a job to its source or to one of its stores. -/
inductive Access where
  | loadCursor
  | fetch
  | writeSummaries (items : List SummarizedItem)
  | writeFailures (items : List Item)
  | getRetry (id : Int64)
  | putRetry (entry : RetryEntry)
  | dropRetry (id : Int64)
  | storeCursor
  deriving DecidableEq

/-- The problem with which a call fails, if it does, after the calls of the run that succeeded. -/
abbrev Faults := List Access → Access → Option Problem

/-- A call that succeeded, with what it read or stored. -/
inductive Effect where
  | cursorLoaded
  /-- The answer of a source that was asked for so many items. -/
  | fetched (limit : Nat) (answer : List Item)
  | summariesWritten (items : List SummarizedItem)
  | failuresWritten (items : List Item)
  | retryRead (id : Int64)
  | retryPut (entry : RetryEntry)
  | retryDropped (id : Int64)
  | cursorStored (text : String)
  deriving DecidableEq

/-- The call of an effect. -/
def Effect.access : Effect → Access
  | cursorLoaded => .loadCursor
  | fetched _ _ => .fetch
  | summariesWritten items => .writeSummaries items
  | failuresWritten items => .writeFailures items
  | retryRead id => .getRetry id
  | retryPut entry => .putRetry entry
  | retryDropped id => .dropRetry id
  | cursorStored _ => .storeCursor

/-- What a source answers when it is asked for the items after a cursor, so many at most, after the
calls of the run that succeeded. -/
abbrev Feed := List Effect → Cursor → Nat → List Item

/-- The source in memory answers with its first items after the cursor. -/
def Source.feed (s : Source) : Feed := fun _ after limit => s.fetch after limit

/-- What is counted of a run. -/
structure JobReport where
  pages : Nat := 0
  itemsRead : Nat := 0
  batches : Nat := 0
  truncatedItems : Nat := 0
  summarized : Nat := 0
  failed : Nat := 0
  enqueuedForRetry : Nat := 0
  deriving DecidableEq, Repr, Inhabited

/-- The report as a record. -/
def JobReport.toTree (r : JobReport) : Tree :=
  .record
    [("pages", .nat r.pages),
     ("items_read", .nat r.itemsRead),
     ("batches", .nat r.batches),
     ("truncated_items", .nat r.truncatedItems),
     ("summarized", .nat r.summarized),
     ("failed", .nat r.failed),
     ("enqueued_for_retry", .nat r.enqueuedForRetry)]

/-- A job: its settings, how it packs items, its provider, and the day on which it runs. -/
structure Job (σ : Type) where
  settings : Settings
  packer : Packer
  provider : Provider σ
  today : Timestamp

/-- What a job works on, and how far it is. -/
structure Desk (σ : Type) where
  source : Source
  paging : Paging
  writer : Writer := {}
  retries : RetryStore := Table.empty
  limiter : Option (Limiter Float) := none
  /-- The state of the provider. -/
  provider : σ
  now : Nat := 0
  /-- The calls of the run that succeeded. -/
  done : List Effect := []
  /-- What happened in the dispatches of the run. -/
  log : List Dispatch.Event := []
  report : JobReport := {}

/-- The desk at the start of a run: nothing is noted of an earlier one. -/
def Desk.cleared (desk : Desk σ) : Desk σ := { desk with done := [], log := [], report := {} }

namespace Job

variable {σ : Type}

/-- Why work at a desk ends before its end. -/
inductive Stop where
  /-- A call failed. -/
  | refused (problem : Problem)
  | overflowed (overflow : Overflow)
  /-- More steps are needed than were given. -/
  | outOfSteps
  deriving DecidableEq

/-- Work at a desk. -/
abbrev Work (σ : Type) := ExceptT Stop (StateM (Desk σ))

/-- A call is made, which would have this effect: it either fails or becomes known as done. -/
def call (faults : Faults) (e : Effect) : Work σ Unit := do
  let desk ← get
  match faults (desk.done.map Effect.access) e.access with
  | some problem => throw (.refused problem)
  | none => set { desk with done := desk.done ++ [e] }

/-- What a change of the pager gives. -/
def paged (change : Paging → Except Problem α × Paging) : Work σ α := do
  let desk ← get
  let (result, paging) := change desk.paging
  set { desk with paging }
  match result with
  | .ok a => return a
  | .error problem => throw (.refused problem)

/-- Finds the stored cursor. -/
def openSource (faults : Faults) : Work σ Unit := do
  call faults .cursorLoaded
  paged (Paging.reopen none)

/-- The next page. The source is asked only while the run may read more. -/
def readPage (feed : Feed) (faults : Faults) : Work σ (Option (List Item)) := do
  let desk ← get
  let limit := desk.paging.pager.limit
  if limit = 0 then return none
  else
    let answer := feed desk.done desk.paging.pager.cursor limit
    call faults (.fetched limit answer)
    paged (Paging.read fun _ _ => .ok answer)

/-- Stores the cursor. -/
def storeCursor (faults : Faults) : Work σ Unit := do
  let desk ← get
  call faults (.cursorStored desk.paging.pager.cursor.checkpoint)
  paged (Paging.update none)

/-- Sends requests. -/
def dispatch (job : Job σ) (fuel : Nat) (requests : List Request) : Work σ (List Result) := do
  let desk ← get
  let world : Dispatch.World Float σ := { limiter := desk.limiter, provider := desk.provider }
  match Dispatch.run job.settings.dispatch job.provider fuel world desk.now requests with
  | none => throw .outOfSteps
  | some (.error overflow) => throw (.overflowed overflow)
  | some (.ok r) =>
    set
      { desk with
        limiter := r.world.limiter
        provider := r.world.provider
        now := r.now
        log := desk.log ++ r.world.log }
    return r.results

/-- The requests of batches, numbered. -/
def requests (batches : List Batch) : List Request :=
  batches.zipIdx.map fun b =>
    { id := b.2, items := b.1.items, estimatedTokens := b.1.estimatedTokens }

/-- Takes an item out of the retry queue. -/
def dropRetry (faults : Faults) (id : Int64) : Work σ Unit := do
  call faults (.retryDropped id)
  modify fun desk => { desk with retries := desk.retries.erase id }

/-- Writes summaries, and takes their items out of the retry queue. -/
def keepSummaries (faults : Faults) (summaries : List SummarizedItem) : Work σ Unit := do
  if summaries.isEmpty then return
  else
    call faults (.summariesWritten summaries)
    modify fun desk => { desk with writer := desk.writer.writeSummaries summaries }
    summaries.forM fun s => dropRetry faults s.item.id

/-- Writes failed items. -/
def keepFailures (faults : Faults) (items : List Item) : Work σ Unit := do
  if items.isEmpty then return
  else
    call faults (.failuresWritten items)
    modify fun desk => { desk with writer := desk.writer.writeFailures items }

/-- The effect of carrying a verdict out. -/
def verdictEffect (v : Verdict) (id : Int64) : Effect :=
  match v.entry? with
  | some entry => .retryPut entry
  | none => .retryDropped id

/-- Records one failure in the retry queue. -/
def recordFailure (job : Job σ) (faults : Faults) (report : RetryReport) (f : Failure) :
    Work σ RetryReport := do
  if f.retryable then call faults (.retryRead f.item.id)
  let desk ← get
  let v := Verdict.of job.settings.retry job.today f (desk.retries.get? f.item.id)
  call faults (verdictEffect v f.item.id)
  modify fun desk => { desk with retries := v.apply f.item.id desk.retries }
  return report.add v

/-- Counts more of the run. -/
def count (change : JobReport → JobReport) : Work σ Unit :=
  modify fun desk => { desk with report := change desk.report }

/-- Packs a page into batches. -/
def pack (job : Job σ) (page : List Item) : Work σ (List Batch) :=
  match job.packer.pack page with
  | none => throw (.overflowed .sum)
  | some batches => return batches

/-- Sends a page and keeps what came of it. -/
def settlePage (job : Job σ) (faults : Faults) (fuel : Nat) (page : List Item) : Work σ Unit := do
  let batches ← job.pack page
  count fun r =>
    { r with
      batches := r.batches + batches.length
      truncatedItems := r.truncatedItems + (batches.filter (·.truncated)).length }
  let results ← job.dispatch fuel (requests batches)
  let failures := results.flatMap (·.outcome.failures)
  let summaries :=
    Settlement.summarizedItems page (results.flatMap (·.outcome.successes))
  keepSummaries faults summaries
  let failed := Settlement.failedItems page summaries failures
  keepFailures faults failed
  let retries ← failures.foldlM (job.recordFailure faults) {}
  count fun r =>
    { r with
      summarized := r.summarized + summaries.length
      failed := r.failed + failed.length
      enqueuedForRetry := r.enqueuedForRetry + retries.scheduled }

/-- Reads and settles pages until none is left; at most `pages` of them, each dispatched in at most
`fuel` steps. -/
def settlePages (job : Job σ) (feed : Feed) (faults : Faults) (fuel : Nat) :
    (pages : Nat) → Work σ Unit
  | 0 => throw .outOfSteps
  | pages + 1 => do
    match ← readPage feed faults with
    | none => return
    | some page =>
      count fun r => { r with pages := r.pages + 1, itemsRead := r.itemsRead + page.length }
      job.settlePage faults fuel page
      storeCursor faults
      settlePages job feed faults fuel pages

/-- All the work of a run. -/
def work (job : Job σ) (feed : Feed) (faults : Faults) (fuel : Nat) : Work σ JobReport := do
  openSource faults
  job.settlePages feed faults fuel fuel
  return (← get).report

/-- A run on a source that answers by `feed`: what it gives, and the desk after it. -/
def runOn (job : Job σ) (feed : Feed) (faults : Faults) (fuel : Nat) (desk : Desk σ) :
    Except Stop JobReport × Desk σ :=
  (job.work feed faults fuel).run desk.cleared

/-- A run on the source in memory that ends within its steps. -/
def run (job : Job σ) (faults : Faults) (fuel : Nat) (desk : Desk σ) :
    Option (Except Stop JobReport × Desk σ) :=
  match job.runOn desk.source.feed faults fuel desk with
  | (.error .outOfSteps, _) => none
  | result => some result

end Job

end Precis
