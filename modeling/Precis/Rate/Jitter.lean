import Precis.Document
import Precis.Time.Span
import Precis.Tree

/-!
# Jitter

A caller may be held back for a moment before it asks for a permit, by a delay between two bounds.
The delay is the lower bound plus a random part of the distance; the random part is an argument.
-/

namespace Precis

open Time

/-- The bounds of the delay in milliseconds, in either order. -/
structure Jitter where
  enabled : Bool := true
  min : UInt64 := 500
  max : UInt64 := 2000
  deriving DecidableEq, Repr, Inhabited

namespace Jitter

/-- No delay. -/
def disabled : Jitter := { enabled := false }

/-- The smaller bound. -/
def low (j : Jitter) : UInt64 := if j.min ≤ j.max then j.min else j.max

/-- The larger bound. -/
def high (j : Jitter) : UInt64 := if j.min ≤ j.max then j.max else j.min

/-- The delay for a random `part` of the distance between the bounds. -/
def sample (j : Jitter) (part : Nat) : Option Nat :=
  if j.enabled then
    some (Span.ofMillis (j.low.toNat + Nat.min part (j.high.toNat - j.low.toNat)))
  else none

/-- The bounds of a record; what is left out has its default. -/
def read? [Document δ] (v : δ) : Option Jitter := do
  let r ← Document.slots ["enabled", "min_ms", "max_ms"] v
  let d : Jitter := {}
  return {
    enabled := ← (r.get "enabled").withDefault d.enabled Document.bool?
    min := ← (r.get "min_ms").withDefault d.min Document.uint64?
    max := ← (r.get "max_ms").withDefault d.max Document.uint64? }

/-- The bounds as a record. -/
def toTree (j : Jitter) : Tree :=
  .record
    [("enabled", .bool j.enabled),
     ("min_ms", .uint64 j.min),
     ("max_ms", .uint64 j.max)]

end Jitter

end Precis
