import Precis.Failure.Kind
import Precis.Time.Timestamp

/-!
# Items and summaries

An item is a post to summarize. Its position, timestamp first and id second, orders the items of a
source. An item that failed carries a note of the failure.
-/

namespace Precis

open Time

/-- What is known of the last failure of an item. -/
structure FailureNote where
  kind : FailureKind
  message : String
  /-- The number of items sent together with it. -/
  batchSize : UInt64
  /-- The whole batch failed, and not this item alone. -/
  wholeBatch : Bool
  deriving DecidableEq, Inhabited

/-- A post to summarize. -/
@[ext] structure Item where
  id : Int64
  title : String
  url : Option String := none
  content : String
  timestamp : Timestamp
  tokenEstimate : Option UInt64 := none
  /-- The content was cut. -/
  truncated : Bool := false
  failure : Option FailureNote := none
  deriving DecidableEq, Inhabited

/-- The summary of a post. -/
structure Summary where
  text : String
  categories : List String := []
  preview : Option String := none
  deriving DecidableEq, Inhabited

/-- A post with its summary. -/
structure SummarizedItem where
  item : Item
  summary : Summary
  deriving DecidableEq, Inhabited

/-- A place in the order of a source. -/
@[ext] structure Position where
  timestamp : Timestamp
  id : Int64
  deriving DecidableEq, Inhabited

namespace Position

/-- Comes before: an earlier timestamp, or the same one and a smaller id. -/
def before (p q : Position) : Prop :=
  p.timestamp < q.timestamp ∨ p.timestamp = q.timestamp ∧ p.id < q.id

instance : LT Position := ⟨before⟩

instance (p q : Position) : Decidable (p < q) := inferInstanceAs (Decidable (_ ∨ _))

theorem lt_iff {p q : Position} :
    p < q ↔ p.timestamp < q.timestamp ∨ p.timestamp = q.timestamp ∧ p.id < q.id := Iff.rfl

end Position

namespace Item

/-- The place of an item in the order of its source. -/
def position (item : Item) : Position := ⟨item.timestamp, item.id⟩

/-- Carries a note of a failure. -/
def isFailed (item : Item) : Bool := item.failure.isSome

end Item

end Precis
