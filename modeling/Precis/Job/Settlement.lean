import Precis.Dispatch.Result

/-!
# Settling a page

The outcomes of a page speak of items as they were sent, perhaps cut. Before they are written, each
item is put back as it was read. Items are told apart by their ids; of items with one id the last
one counts.
-/

namespace Precis.Settlement

/-- The last of the elements with a property. -/
def findLast? (p : α → Bool) (xs : List α) : Option α := xs.reverse.find? p

/-- The note of an item without any outcome. -/
def noOutcome : FailureNote :=
  { kind := .unknown, message := "no outcome recorded for item", batchSize := 0
    wholeBatch := false }

/-- The note of a failure of the item, or of none. -/
def noteFor (failures : List Failure) (item : Item) : FailureNote :=
  match findLast? (·.item.id == item.id) failures with
  | some f => f.note
  | none => noOutcome

/-- The items without a summary, each with a note of its failure. -/
def failedItems (page : List Item) (successes : List SummarizedItem)
    (failures : List Failure) : List Item :=
  (page.filter fun item => !successes.any (·.item.id == item.id)).map fun item =>
    { item with failure := some (noteFor failures item) }

/-- The summaries with their items as they were read. -/
def summarizedItems (page : List Item) (successes : List SummarizedItem) :
    List SummarizedItem :=
  successes.map fun s =>
    match findLast? (·.id == s.item.id) page with
    | some item => { s with item }
    | none => s

end Precis.Settlement
