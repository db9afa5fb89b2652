import Precis.Item.Basic
import Precis.Text.Numeral

/-!
# Results of a request

Each item of a request either got a summary or failed. A failure belongs to the item alone or to the
whole batch that was sent.
-/

namespace Precis

/-- An item that got no summary. -/
structure Failure where
  item : Item
  kind : FailureKind
  reason : String
  /-- Another attempt may succeed. -/
  retryable : Bool
  /-- The whole batch failed, and not this item alone. -/
  wholeBatch : Bool
  /-- The number of items sent together with it. -/
  batchSize : UInt64
  deriving DecidableEq, Inhabited

namespace Failure

/-- The failure of an item with its whole batch. -/
def ofBatch (item : Item) (kind : FailureKind) (reason : String) (batchSize : UInt64) : Failure :=
  { item, kind, reason, retryable := kind.retryable, wholeBatch := true, batchSize }

/-- The failure of one item of a batch. -/
def ofItem (item : Item) (kind : FailureKind) (reason : String) (batchSize : UInt64) : Failure :=
  { ofBatch item kind reason batchSize with wholeBatch := false }

/-- What the item keeps of the failure. -/
def note (f : Failure) : FailureNote :=
  { kind := f.kind, message := f.reason, batchSize := f.batchSize, wholeBatch := f.wholeBatch }

/-- The text of a failure. -/
def toText (f : Failure) : String :=
  (if f.wholeBatch then "batch" else "item") ++ " failure for item "
    ++ String.ofList (Text.signedDigits f.item.id.toInt) ++ " (" ++ f.kind.name ++ "): "
    ++ f.reason

end Failure

/-- How the items of a request went. -/
structure Outcome where
  successes : List SummarizedItem := []
  failures : List Failure := []
  deriving DecidableEq, Inhabited

namespace Outcome

/-- The number of items with an outcome. -/
def total (o : Outcome) : Nat := o.successes.length + o.failures.length

/-- No item failed. -/
def allSucceeded (o : Outcome) : Bool := o.failures.isEmpty

/-- The part of the items that got a summary; zero when there are none. -/
def successRate (o : Outcome) : Float :=
  if o.total = 0 then 0 else Float.ofNat o.successes.length / Float.ofNat o.total

/-- The failures worth another attempt. -/
def retryableFailures (o : Outcome) : List Failure := o.failures.filter (·.retryable)

end Outcome

/-- What is counted of a request. -/
structure Metrics where
  items : Nat := 0
  successes : Nat := 0
  failures : Nat := 0
  /-- Calls for the request, those of retries included. -/
  attempts : Nat := 0
  estimatedTokens : UInt64 := 0
  deriving DecidableEq, Repr, Inhabited

/-- The result of a request. -/
structure Result where
  request : Nat
  outcome : Outcome
  metrics : Metrics
  deriving DecidableEq, Inhabited

end Precis
