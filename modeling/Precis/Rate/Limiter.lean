import Precis.Problem
import Precis.Rate.Bucket
import Precis.Time.Schedule

/-!
# Limiters

A limiter is a bucket with a label. A caller that gets no permit sleeps until there should be one
and asks again; it fails as soon as the next permit would come after its deadline. A deadline or the
end of a wait that is later than the last instant stops the program, and so does a wait that is too
long for a span.
-/

namespace Precis

open Time

/-- A bucket with a label. -/
structure Limiter (α : Type) where
  label : String
  bucket : Bucket α

/-- A caller that waits for a permit. -/
structure Caller where
  /-- When it gives up, if ever. -/
  deadline : Option Nat
  deriving DecidableEq, Repr

/-- How a caller fares when it asks. -/
inductive Limiter.Answer where
  | granted
  | refused
  /-- Asks again at this time. -/
  | later (time : Nat)
  | overflowed (overflow : Overflow)
  deriving DecidableEq, Repr

namespace Caller

/-- The deadline is an instant. -/
def isTimed (caller : Caller) : Bool := caller.deadline.all (· ≤ Instant.last)

/-- How a caller fares when it would have to wait for so long. -/
def answer (caller : Caller) (now span : Nat) : Limiter.Answer :=
  if Span.longest < span then .overflowed .span
  else
    match caller.deadline with
    | some deadline =>
      if Instant.last < now + span then .overflowed .time
      else if deadline < now + span then .refused
      else .later (now + span)
    | none => .later (now + span)

end Caller

namespace Limiter

variable {α : Type} [Quantity α]

/-- A limiter with a full bucket. -/
def new (label : String) (config : BucketConfig α) (now : Nat) : Limiter α :=
  { label, bucket := Bucket.full config now }

/-- A caller that starts to wait. -/
def caller (l : Limiter α) (now : Nat) : Caller :=
  { deadline := l.bucket.config.timeout.map (now + ·) }

/-- The problem of a caller that gave up. -/
def noPermit (l : Limiter α) : Problem :=
  .noPermit l.label (l.bucket.config.timeout.getD 0)

/-- A caller asks for a permit. -/
def ask (l : Limiter α) (caller : Caller) (now : Nat) : Answer × Limiter α :=
  if caller.isTimed then
    let (grant, bucket) := l.bucket.ask now
    let l := { l with bucket }
    match grant with
    | .permit => (.granted, l)
    | .wait span => (caller.answer now span, l)
  else (.overflowed .time, l)

/-- Waiting for a permit as a task; the result is the time and whether there was one. -/
def acquireTask : Schedule.Act (Limiter α) (Option Caller) (Nat × Except Problem Unit) :=
  fun now _ l task =>
    let caller := task.getD (l.caller now)
    let (answer, l) := l.ask caller now
    match answer with
    | .granted => (l, .done (now, .ok ()))
    | .refused => (l, .done (now, .error l.noPermit))
    | .later t => (l, if t = now then .again (some caller) else .sleep t (some caller))
    | .overflowed overflow => (l, .stop overflow (some caller))

/-- So many callers start to wait together. Gives the final time, the limiter, and how each caller
fared. -/
def acquireMany (fuel : Nat) (l : Limiter α) (callers : Nat) (now : Nat) :
    Option (Except Overflow (Nat × Limiter α × List (Nat × Except Problem Unit))) :=
  let start : Schedule (Limiter α) (Option Caller) (Nat × Except Problem Unit) :=
    Schedule.start now l callers (List.replicate callers none)
  (start.run acquireTask fuel).map fun s =>
    s.outcome.map fun s => (s.now, s.world, s.finished.map (·.2))

/-- One caller waits for a permit. -/
def acquire (fuel : Nat) (l : Limiter α) (now : Nat) :
    Option (Except Overflow (Except Problem Unit × Nat × Limiter α)) := do
  match ← l.acquireMany fuel 1 now with
  | .error overflow => return .error overflow
  | .ok (now, l, results) =>
    let first ← results.head?
    return .ok (first.2, now, l)

end Limiter

end Precis
