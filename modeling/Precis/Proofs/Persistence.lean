import Precis.Proofs.Item.Persisted
import Precis.Proofs.Source.Reading
import Precis.Retry.Entry

/-!
# What is kept between runs

Items, notes, summaries, cursors and retry entries are kept as texts, and each text reads back as
what it was written for (`kept_reads_back`): for all characters, all words, all timestamps of the
range with their nanoseconds, leap seconds and signed years, and whichever fields have no value. So
a pager that stored its cursor is found where it stood by the next pager of its name
(`Paging.reopen_after_update`).
-/

namespace Precis

open Document
open Json (Restores ofText nullOr)

theorem RetryEntry.restores : Restores toJson ofJson? := by
  refine Json.restores_record ?_ ?_ ?_
  · intro e
    simp
  · intro e
    simp only [List.forall_mem_cons]
    exact ⟨Json.restores_int64.plain _, Json.restores_text.plain _, FailureKind.restores.plain _,
      Json.restores_uint32.plain _, Time.Timestamp.restores.plain _, Json.restores_uint32.plain _,
      Time.Timestamp.restores.plain _, Json.plain_nullOr _ Time.Timestamp.restores.plain, by simp⟩
  · intro e r hget
    simp only [fieldNames, List.forall_mem_cons] at hget
    obtain ⟨hitem, hreason, hkind, hretries, hnext, hmax, hcreated, hlast, -⟩ := hget
    simp [Json.required_get hitem (by simp) (Json.restores_int64.read_write e.item),
      Json.required_get hreason (by simp [List.lookup_cons])
        (Json.restores_text.read_write e.reason),
      Json.required_get hkind (by simp [List.lookup_cons]) (FailureKind.restores.read_write e.kind),
      Json.required_get hretries (by simp [List.lookup_cons])
        (Json.restores_uint32.read_write e.retries),
      Json.required_get hnext (by simp [List.lookup_cons])
        (Time.Timestamp.restores.read_write e.next),
      Json.required_get hmax (by simp [List.lookup_cons])
        (Json.restores_uint32.read_write e.maxRetries),
      Json.required_get hcreated (by simp [List.lookup_cons])
        (Time.Timestamp.restores.read_write e.created),
      Time.Timestamp.restores.nullable_get (a := e.last) hlast (by simp [List.lookup_cons])]

/-- A pager of the same name, whatever its settings, stands where the last one stored its cursor. -/
theorem Paging.reopen_after_update (s : Paging) (settings : ReaderSettings) :
    let next := (s.update none).2.restart s.pager.name settings
    next.reopen none = (.ok (), next.openedAt s.pager.cursor) := by
  intro next
  apply reopen_of_storedCursor
  apply storedCursor_of_stored
  exact (Table.get?_insert _ _ _ _).trans (if_pos rfl)

/-- Whatever is kept as a text reads back from it, and a stored cursor is found again. -/
theorem kept_reads_back :
    (∀ item : Item, (Json.parse item.toJson.render).bind Item.ofJson? = some item) ∧
    (∀ note : FailureNote, (Json.parse note.toJson.render).bind FailureNote.ofJson? = some note) ∧
    (∀ summary : Summary, (Json.parse summary.toJson.render).bind Summary.ofJson? = some summary) ∧
    (∀ s : SummarizedItem, (Json.parse s.toJson.render).bind SummarizedItem.ofJson? = some s) ∧
    (∀ cursor : Cursor, Cursor.ofCheckpoint? cursor.checkpoint = some cursor) ∧
    (∀ entry : RetryEntry, (Json.parse entry.toJson.render).bind RetryEntry.ofJson? = some entry) ∧
    (∀ (s : Paging) (settings : ReaderSettings),
      let next := ((s.update none).2.restart s.pager.name settings).reopen none
      next.1 = .ok () ∧ next.2.pager.cursor = s.pager.cursor) := by
  refine ⟨Item.restores.parse, FailureNote.restores.parse, Summary.restores.parse,
    SummarizedItem.restores.parse, Cursor.ofCheckpoint?_checkpoint, RetryEntry.restores.parse, ?_⟩
  intro s settings next
  have hnext : next = (.ok (), _) := s.reopen_after_update settings
  rw [hnext]
  exact ⟨rfl, rfl⟩

end Precis
