import Precis.Dispatch.Result
import Precis.Retry.Entry
import Precis.Table
import Precis.Tree

/-!
# The retry queue

The queue keeps one entry for each item whose failure is worth another attempt. A further failure
moves the entry on until its retries run out; a summary or a failure for good removes it.
-/

namespace Precis

open Time

/-- How failed items are tried again. -/
structure RetrySettings where
  maxRetries : UInt32 := 5
  /-- Milliseconds before the first retry. -/
  baseDelay : UInt64 := 60000
  deriving DecidableEq, Repr, Inhabited

namespace RetrySettings

/-- The delay before the first retry. -/
def baseSpan (s : RetrySettings) : Nat := Span.ofMillis s.baseDelay.toNat

/-- The settings of a record; what is left out has its default. -/
def read? [Document δ] (v : δ) : Option RetrySettings := do
  let r ← Document.slots ["max_retries", "base_delay_ms"] v
  let d : RetrySettings := {}
  return {
    maxRetries := ← (r.get "max_retries").withDefault d.maxRetries Document.uint32?
    baseDelay := ← (r.get "base_delay_ms").withDefault d.baseDelay Document.uint64? }

/-- The settings as a record. -/
def toTree (s : RetrySettings) : Tree :=
  .record
    [("max_retries", .uint32 s.maxRetries),
     ("base_delay_ms", .uint64 s.baseDelay)]

end RetrySettings

/-- The entries by item. -/
abbrev RetryStore := Table Int64 RetryEntry

/-- What becomes of an item that failed. -/
inductive Verdict where
  /-- No attempt can help. -/
  | permanent
  | enqueued (entry : RetryEntry)
  | rescheduled (entry : RetryEntry)
  /-- The retries ran out. -/
  | exhausted
  deriving DecidableEq

namespace Verdict

/-- The verdict on a failure that is worth another attempt, given the entry of its item. -/
def ofRetryable (s : RetrySettings) (now : Timestamp) (f : Failure) : Option RetryEntry → Verdict
  | none => enqueued (RetryEntry.new f.item.id f.reason f.kind s.maxRetries s.baseSpan now)
  | some entry =>
    let next := (entry.retried s.baseSpan now).withCause f.reason f.kind
    if next.maxRetries < next.retries then exhausted else rescheduled next

/-- The verdict on a failure, given the entry of its item. -/
def of (s : RetrySettings) (now : Timestamp) (f : Failure) (entry : Option RetryEntry) : Verdict :=
  if f.retryable then ofRetryable s now f entry else permanent

/-- The entry that is stored, if one is. -/
def entry? : Verdict → Option RetryEntry
  | enqueued entry => some entry
  | rescheduled entry => some entry
  | permanent => none
  | exhausted => none

/-- The store after the verdict on an item. -/
def apply (v : Verdict) (item : Int64) (store : RetryStore) : RetryStore :=
  match v.entry? with
  | some entry => store.insert entry.item entry
  | none => store.erase item

end Verdict

/-- How many failures got each verdict. -/
structure RetryReport where
  enqueued : Nat := 0
  rescheduled : Nat := 0
  exhausted : Nat := 0
  permanent : Nat := 0
  deriving DecidableEq, Repr, Inhabited

namespace RetryReport

/-- One more verdict. -/
def add (r : RetryReport) : Verdict → RetryReport
  | .permanent => { r with permanent := r.permanent + 1 }
  | .enqueued _ => { r with enqueued := r.enqueued + 1 }
  | .rescheduled _ => { r with rescheduled := r.rescheduled + 1 }
  | .exhausted => { r with exhausted := r.exhausted + 1 }

/-- The failures that will be tried again. -/
def scheduled (r : RetryReport) : Nat := r.enqueued + r.rescheduled

end RetryReport

namespace RetryStore

/-- Records one failure. -/
def recordFailure (s : RetrySettings) (now : Timestamp) (store : RetryStore) (f : Failure) :
    Verdict × RetryStore :=
  let v := Verdict.of s now f (store.get? f.item.id)
  (v, v.apply f.item.id store)

/-- Records failures in their order. -/
def recordFailures (s : RetrySettings) (now : Timestamp) (store : RetryStore) :
    List Failure → RetryReport × RetryStore :=
  List.foldl
    (fun acc f =>
      let r := recordFailure s now acc.2 f
      (acc.1.add r.1, r.2))
    ({}, store)

/-- Records summaries: their items need no retry. Gives the number of entries removed. -/
def recordSuccesses (store : RetryStore) (ids : List Int64) : Nat × RetryStore :=
  ids.foldl (fun acc id => (if acc.2.contains id then acc.1 + 1 else acc.1, acc.2.erase id))
    (0, store)

/-- The entry comes no later: by the time of the next attempt, then by item. -/
def dueBefore (a b : RetryEntry) : Bool :=
  a.next < b.next || (a.next = b.next && a.item ≤ b.item)

/-- The entries whose time has passed, the longest due first. -/
def due (store : RetryStore) (now : Timestamp) : List RetryEntry :=
  (store.values.filter (·.isDue now)).mergeSort dueBefore

end RetryStore

end Precis
