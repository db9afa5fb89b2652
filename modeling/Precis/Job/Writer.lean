import Precis.Item.Basic
import Precis.Table

/-!
# What a job writes

Summaries and failed items by id. An item that gets a summary is no longer listed as failed.
-/

namespace Precis

/-- The written summaries and failed items. -/
structure Writer where
  summaries : Table Int64 SummarizedItem := Table.empty
  failures : Table Int64 Item := Table.empty
  deriving DecidableEq, Inhabited

namespace Writer

/-- Writes one summary. -/
def writeSummary (w : Writer) (s : SummarizedItem) : Writer :=
  { summaries := w.summaries.insert s.item.id s, failures := w.failures.erase s.item.id }

/-- Writes summaries. -/
def writeSummaries (w : Writer) (items : List SummarizedItem) : Writer :=
  items.foldl writeSummary w

/-- Writes one failed item. -/
def writeFailure (w : Writer) (item : Item) : Writer :=
  { w with failures := w.failures.insert item.id item }

/-- Writes failed items. -/
def writeFailures (w : Writer) (items : List Item) : Writer := items.foldl writeFailure w

end Writer

end Precis
