import Precis.Item.Persisted

/-!
# Cursors

A cursor stands after the last item that was read. It is stored between runs as a checkpoint, the
Json record of its fields.
-/

namespace Precis

open Document Time

/-- A place between two items of a source, and how many were read so far. -/
@[ext] structure Cursor where
  lastTimestamp : Option Timestamp := none
  lastId : Option Int64 := none
  processed : UInt64 := 0
  deriving DecidableEq, Inhabited

namespace Cursor

/-- The cursor before every item. -/
def start : Cursor := {}

/-- Stands before every item and was never moved. -/
def isStart (c : Cursor) : Bool := c.lastTimestamp.isNone && c.lastId.isNone

/-- The position of the last item read. -/
def position (c : Cursor) : Option Position :=
  match c.lastTimestamp, c.lastId with
  | some timestamp, some id => some ⟨timestamp, id⟩
  | _, _ => none

/-- Stands before the item. -/
def precedes (c : Cursor) (item : Item) : Bool :=
  match c.position with
  | some p => p < item.position
  | none => true

/-- The cursor after a page. -/
def advance (c : Cursor) (page : List Item) : Cursor :=
  match page.getLast? with
  | none => c
  | some last =>
    { lastTimestamp := some last.timestamp
      lastId := some last.id
      processed := c.processed + UInt64.ofNat page.length }

/-- The checkpoint of a cursor. -/
def toJson (c : Cursor) : Json :=
  Json.record
    [("last_timestamp", Json.nullOr Timestamp.toJson c.lastTimestamp),
     ("last_id", Json.nullOr Json.ofInt64 c.lastId),
     ("read_count", Json.ofUInt64 c.processed)]

/-- The cursor of a checkpoint. -/
def ofJson? (v : Json) : Option Cursor := do
  let r ← slots ["last_timestamp", "last_id", "read_count"] v
  return {
    lastTimestamp := ← (r.get "last_timestamp").nullable Timestamp.ofJson?
    lastId := ← (r.get "last_id").nullable Json.int64?
    processed := ← (r.get "read_count").required uint64? }

/-- The text of a checkpoint. -/
def checkpoint (c : Cursor) : String := c.toJson.render

/-- The cursor of a checkpoint's text. -/
def ofCheckpoint? (text : String) : Option Cursor := (Json.parse text).bind ofJson?

end Cursor

end Precis
