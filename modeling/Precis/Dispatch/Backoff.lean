import Precis.Document
import Precis.Failure.Kind
import Precis.Time.Span
import Precis.Word
import Precis.Tree

/-!
# Waiting between attempts

After a failed call the next one waits. A delay that the destination asks for is kept up to the cap;
otherwise the delay of the kind of failure doubles with every retry up to the cap.
-/

namespace Precis

open Time

/-- Delays in milliseconds. -/
structure Backoff where
  /-- After a timeout or an error of the provider. -/
  base : UInt64 := 1000
  /-- After the provider asked for fewer calls. -/
  rateLimitBase : UInt64 := 5000
  /-- After any other failure. -/
  otherBase : UInt64 := 2000
  cap : UInt64 := 60000
  deriving DecidableEq, Repr, Inhabited

namespace Backoff

/-- The first delay after a failure of a kind. -/
def baseFor (b : Backoff) : FailureKind → UInt64
  | .rateLimit => b.rateLimitBase
  | .timeout | .apiError => b.base
  | _ => b.otherBase

/-- The word nearest to `2 ^ index`. -/
def factor (index : UInt32) : UInt64 := Word.clamp64 (Nat.pow 2 (min index.toNat 64))

/-- The delay before retry number `index`, the first retry being number 0. -/
def delay (b : Backoff) (kind : FailureKind) (index : UInt32) (retryAfter : Option Nat) : Nat :=
  let cap := Span.ofMillis b.cap.toNat
  match retryAfter with
  | some asked => min asked cap
  | none => min (Span.ofMillis (Word.mulSat (b.baseFor kind) (factor index)).toNat) cap

/-- The names of the delays in a record. -/
def fieldNames : List String :=
  ["base_delay_ms", "rate_limit_base_delay_ms", "other_error_base_delay_ms", "max_delay_ms"]

/-- The delays of a record; what is left out has its default. -/
def read? [Document δ] (v : δ) : Option Backoff := do
  let r ← Document.slots fieldNames v
  let d : Backoff := {}
  return {
    base := ← (r.get "base_delay_ms").withDefault d.base Document.uint64?
    rateLimitBase :=
      ← (r.get "rate_limit_base_delay_ms").withDefault d.rateLimitBase Document.uint64?
    otherBase := ← (r.get "other_error_base_delay_ms").withDefault d.otherBase Document.uint64?
    cap := ← (r.get "max_delay_ms").withDefault d.cap Document.uint64? }

/-- The delays as a record. -/
def toTree (b : Backoff) : Tree :=
  .record
    [("base_delay_ms", .uint64 b.base),
     ("rate_limit_base_delay_ms", .uint64 b.rateLimitBase),
     ("other_error_base_delay_ms", .uint64 b.otherBase),
     ("max_delay_ms", .uint64 b.cap)]

end Backoff

end Precis
