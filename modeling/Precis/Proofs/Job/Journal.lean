import Precis.Job.Basic
import Precis.Proofs.Source.Order

/-!
# What a journal stores

A journal lists the calls that succeeded. `Stores.replay` carries it out on stores, so the stores at
any moment are known from the journal up to it. `Effect.Hands` says which calls hand an item to the
writer. `readBy`, `summarizedBy` and `failedBy` list the items that went through the calls.
-/

namespace Precis

/-- What outlives a run: the stored cursors, what was written, and the retry queue. -/
structure Stores where
  cursors : Table String String := Table.empty
  writer : Writer := {}
  retries : RetryStore := Table.empty

namespace Stores

/-- The stores after a call that succeeded, when cursors are stored under `key`. -/
def after (key : String) (stores : Stores) : Effect → Stores
  | .cursorLoaded => stores
  | .fetched _ _ => stores
  | .summariesWritten items => { stores with writer := stores.writer.writeSummaries items }
  | .failuresWritten items => { stores with writer := stores.writer.writeFailures items }
  | .retryRead _ => stores
  | .retryPut entry => { stores with retries := stores.retries.insert entry.item entry }
  | .retryDropped id => { stores with retries := stores.retries.erase id }
  | .cursorStored text => { stores with cursors := stores.cursors.insert key text }

/-- The stores after a journal. -/
def replay (key : String) (stores : Stores) (journal : List Effect) : Stores :=
  journal.foldl (after key) stores

/-- The stored text of a cursor. -/
def checkpoint (key : String) (stores : Stores) : Option String := stores.cursors.get? key

/-- The position in the stored text of a cursor. -/
def position (key : String) (stores : Stores) : Option Position :=
  ((stores.checkpoint key).bind Cursor.ofCheckpoint?).bind Cursor.position

variable {key : String} {stores : Stores}

theorem replay_concat (journal : List Effect) (e : Effect) :
    stores.replay key (journal ++ [e]) = (stores.replay key journal).after key e := by
  rw [replay, List.foldl_append]
  rfl

/-- Only a call that stores the cursor changes what is stored of it. -/
theorem checkpoint_after {e : Effect} (h : ∀ text, e ≠ .cursorStored text) :
    (stores.after key e).checkpoint key = stores.checkpoint key := by
  cases e with
  | cursorStored text => exact absurd rfl (h text)
  | _ => rfl

theorem position_after {e : Effect} (h : ∀ text, e ≠ .cursorStored text) :
    (stores.after key e).position key = stores.position key := by
  rw [position, checkpoint_after h, position]

theorem checkpoint_after_cursorStored (text : String) :
    (stores.after key (.cursorStored text)).checkpoint key = some text := by
  rw [checkpoint, after, Table.get?_insert, if_pos rfl]

end Stores

/-- The stores of a desk. -/
def Desk.stores {σ : Type} (desk : Desk σ) : Stores :=
  { cursors := desk.paging.store, writer := desk.writer, retries := desk.retries }

/-- The call hands the item to the writer, with a summary or with a note of its failure. -/
def Effect.Hands (item : Item) : Effect → Prop
  | summariesWritten items => ∃ summary, ⟨item, summary⟩ ∈ items
  | failuresWritten items => ∃ note, { item with failure := some note } ∈ items
  | _ => False

/-- A call of the journal handed the item to the writer. -/
def Handed (journal : List Effect) (item : Item) : Prop := ∃ e ∈ journal, e.Hands item

theorem Handed.append {journal : List Effect} {item : Item} (h : Handed journal item)
    (more : List Effect) : Handed (journal ++ more) item := by
  obtain ⟨e, he, hands⟩ := h
  exact ⟨e, List.mem_append_left more he, hands⟩

theorem handed_concat {e : Effect} {item : Item} (h : e.Hands item) (journal : List Effect) :
    Handed (journal ++ [e]) item :=
  ⟨e, List.mem_append_right journal (List.mem_singleton_self e), h⟩

/-! ## The items in a journal -/

/-- The item without a note of a failure. -/
def Item.unmarked (item : Item) : Item := { item with failure := none }

namespace Effect

/-- The items of a page: what the source answered, as far as it was asked. -/
def read : Effect → List Item
  | fetched limit answer => answer.take limit
  | _ => []

/-- The summaries that were written. -/
def summaries : Effect → List SummarizedItem
  | summariesWritten items => items
  | _ => []

/-- The failed items that were written. -/
def failures : Effect → List Item
  | failuresWritten items => items
  | _ => []

/-- What one call writes stands in the order of the source. -/
def InOrder (e : Effect) : Prop := Ascending (e.summaries.map (·.item)) ∧ Ascending e.failures

end Effect

/-- The items that were read, in order. -/
def readBy (journal : List Effect) : List Item := journal.flatMap Effect.read

/-- The summaries that were written, in order. -/
def summarizedBy (journal : List Effect) : List SummarizedItem := journal.flatMap Effect.summaries

/-- The failed items that were written, in order. -/
def failedBy (journal : List Effect) : List Item := journal.flatMap Effect.failures

theorem readBy_concat (journal : List Effect) (e : Effect) :
    readBy (journal ++ [e]) = readBy journal ++ e.read :=
  List.flatMap_append.trans (by simp [readBy])

theorem summarizedBy_concat (journal : List Effect) (e : Effect) :
    summarizedBy (journal ++ [e]) = summarizedBy journal ++ e.summaries :=
  List.flatMap_append.trans (by simp [summarizedBy])

theorem failedBy_concat (journal : List Effect) (e : Effect) :
    failedBy (journal ++ [e]) = failedBy journal ++ e.failures :=
  List.flatMap_append.trans (by simp [failedBy])

end Precis
