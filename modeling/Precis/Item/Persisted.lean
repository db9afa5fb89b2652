import Precis.Item.Basic
import Precis.Json.Record
import Precis.Time.Rfc3339

/-!
# Persisted items

The Json records of items, notes and summaries. `toJson` writes the fields in their order and leaves
out an absent url, estimate or failure; `ofJson?` reads objects and arrays of fields, and fills in
what was left out.
-/

namespace Precis

open Document Time
open Json (record field? nullOr ofText ofNat ofInt int64? list?)

namespace Time.Timestamp

/-- A timestamp as a Json text. -/
def toJson (t : Timestamp) : Json := Json.string t.write

/-- The timestamp of a Json text. -/
def ofJson? (v : Json) : Option Timestamp := (Json.text? v).bind ofText?

end Time.Timestamp

namespace FailureKind

/-- The name of a kind as a Json text. -/
def toJson (kind : FailureKind) : Json := ofText kind.name

/-- The kind named by a Json variant. -/
def ofJson? (v : Json) : Option FailureKind := (variant? v).bind ofName?

end FailureKind

/-- A signed word as a Json number. -/
def Json.ofInt64 (n : Int64) : Json := ofInt n.toInt

/-- A word as a Json number. -/
def Json.ofUInt64 (n : UInt64) : Json := ofNat n.toNat

/-- A word as a Json number. -/
def Json.ofUInt32 (n : UInt32) : Json := ofNat n.toNat

namespace FailureNote

/-- The record of a note. -/
def toJson (note : FailureNote) : Json :=
  record
    [("error_type", note.kind.toJson),
     ("error_message", ofText note.message),
     ("batch_size", Json.ofUInt64 note.batchSize),
     ("is_batch_failure", Json.bool note.wholeBatch)]

/-- The note of a record. -/
def ofJson? (v : Json) : Option FailureNote := do
  let r ← slots ["error_type", "error_message", "batch_size", "is_batch_failure"] v
  return {
    kind := ← (r.get "error_type").required FailureKind.ofJson?
    message := ← (r.get "error_message").required text?
    batchSize := ← (r.get "batch_size").required uint64?
    wholeBatch := ← (r.get "is_batch_failure").required bool? }

end FailureNote

namespace Item

/-- The fields of an item in order. -/
def fieldNames : List String :=
  ["id", "title", "url", "content", "timestamp", "token_estimate", "truncated", "failure"]

/-- The record of an item. -/
def toJson (item : Item) : Json :=
  record
    ([("id", Json.ofInt64 item.id), ("title", ofText item.title)]
      ++ field? "url" (item.url.map ofText)
      ++ [("content", ofText item.content), ("timestamp", item.timestamp.toJson)]
      ++ field? "token_estimate" (item.tokenEstimate.map Json.ofUInt64)
      ++ [("truncated", Json.bool item.truncated)]
      ++ field? "failure" (item.failure.map FailureNote.toJson))

/-- The item of a record. -/
def ofJson? (v : Json) : Option Item := do
  let r ← slots fieldNames v
  return {
    id := ← (r.get "id").required int64?
    title := ← (r.get "title").required text?
    url := ← (r.get "url").withDefault none (orNull text?)
    content := ← (r.get "content").required text?
    timestamp := ← (r.get "timestamp").required Timestamp.ofJson?
    tokenEstimate := ← (r.get "token_estimate").withDefault none (orNull uint64?)
    truncated := ← (r.get "truncated").withDefault false bool?
    failure := ← (r.get "failure").withDefault none (orNull FailureNote.ofJson?) }

end Item

namespace Summary

/-- The record of a summary. -/
def toJson (summary : Summary) : Json :=
  record
    [("summary", ofText summary.text),
     ("categories", Json.array (summary.categories.map ofText)),
     ("preview", nullOr ofText summary.preview)]

/-- The summary of a record. -/
def ofJson? (v : Json) : Option Summary := do
  let r ← slots ["summary", "categories", "preview"] v
  return {
    text := ← (r.get "summary").required text?
    categories := ← (r.get "categories").withDefault [] (list? text?)
    preview := ← (r.get "preview").withDefault none (orNull text?) }

end Summary

namespace SummarizedItem

/-- The record of an item with its summary. -/
def toJson (s : SummarizedItem) : Json :=
  record [("item", s.item.toJson), ("summary", s.summary.toJson)]

/-- The item and summary of a record. -/
def ofJson? (v : Json) : Option SummarizedItem := do
  let r ← slots ["item", "summary"] v
  return {
    item := ← (r.get "item").required Item.ofJson?
    summary := ← (r.get "summary").required Summary.ofJson? }

end SummarizedItem

end Precis
