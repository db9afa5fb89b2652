import Precis.Job.Basic
import Precis.Rate.Destinations

/-!
# Putting a job together

A job needs settings that meet every demand, a source, a provider and a writer. Stores that are not
given are empty ones of its own; a limiter is shared with all that call the same host.
-/

namespace Precis.Job

open Time

/-- What a job is put together from. -/
structure Parts (σ : Type) where
  settings : Settings := {}
  source : Option Source := none
  provider : Option (Provider σ) := none
  writer : Option Writer := none
  checkpoints : Option (Table String String) := none
  retries : Option RetryStore := none
  counter : Option TokenCounter := none
  /-- Destinations, and the address of the provider. -/
  limiter : Option (Destinations × String) := none

/-- A part is missing. -/
def missing (part : String) : Problem :=
  .stated .configuration ("summary job requires a " ++ part)
    { field := some part, source := some "summary_job_builder" }

/-- A part that must be given. -/
def part (name : String) : Option α → Except Problem α
  | some a => .ok a
  | none => .error (missing name)

/-- The limiter of the provider at the start. -/
def Parts.limiterAt (p : Parts σ) (now : Nat) : Except Problem (Option (Limiter Float)) :=
  match p.limiter with
  | none => .ok none
  | some (destinations, address) =>
    (destinations.limiterFor address now).map fun found => some found.2.1

/-- The job of the parts and its desk. -/
def Parts.assemble (p : Parts σ) (state : σ) (today : Timestamp) :
    Except Problem (Job σ × Desk σ) := do
  let settings := p.settings
  settings.check
  let source ← part "source" p.source
  let provider ← part "summarizer" p.provider
  let writer ← part "writer" p.writer
  let limiter ← p.limiterAt 0
  let packer := ((p.counter.map (Packer.withCounter settings.batch)).getD
    (Packer.ofLimits settings.batch))
  let pager : Pager := { name := settings.name, settings := settings.reader }
  let paging : Paging := { pager, store := p.checkpoints.getD Table.empty }
  let desk : Desk σ :=
    { source, paging, writer, retries := p.retries.getD Table.empty, limiter, provider := state }
  return ({ settings, packer, provider, today }, desk)

end Precis.Job
