import Precis.Dispatch.Backoff

/-!
# Settings of the dispatch
-/

namespace Precis

open Time

/-- How requests are sent. -/
structure DispatchSettings where
  /-- The largest number of calls at one time. -/
  concurrency : UInt64 := 2
  /-- Milliseconds after which a call is given up. -/
  timeout : UInt64 := 120000
  /-- The largest number of calls for one request. -/
  maxAttempts : UInt32 := 3
  backoff : Backoff := {}
  deriving DecidableEq, Repr, Inhabited

namespace DispatchSettings

/-- The deadline of a call as a span. -/
def timeoutSpan (s : DispatchSettings) : Nat := Span.ofMillis s.timeout.toNat

/-- The settings with another deadline; of its whole milliseconds the lowest 64 bits count. -/
def withTimeout (s : DispatchSettings) (t : Nat) : DispatchSettings :=
  { s with timeout := UInt64.ofNat (Span.millis t) }

/-- The settings of a record; what is left out has its default. -/
def read? [Document δ] (v : δ) : Option DispatchSettings := do
  let r ← Document.slots ["concurrency_limit", "timeout_ms", "max_retry_attempts", "retry"] v
  let d : DispatchSettings := {}
  return {
    concurrency := ← (r.get "concurrency_limit").withDefault d.concurrency Document.uint64?
    timeout := ← (r.get "timeout_ms").withDefault d.timeout Document.uint64?
    maxAttempts := ← (r.get "max_retry_attempts").withDefault d.maxAttempts Document.uint32?
    backoff := ← (r.get "retry").withDefault d.backoff Backoff.read? }

/-- The settings as a record. -/
def toTree (s : DispatchSettings) : Tree :=
  .record
    [("concurrency_limit", .uint64 s.concurrency),
     ("timeout_ms", .uint64 s.timeout),
     ("max_retry_attempts", .uint32 s.maxAttempts),
     ("retry", s.backoff.toTree)]

end DispatchSettings

end Precis
