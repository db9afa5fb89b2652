import Precis.Item.Persisted
import Precis.Packing.Batch
import Precis.Text.Blank

/-!
# Plans

A plan shows how the items of a file would be packed. The file holds one item a line; blank lines
are passed over, and lines keep their numbers.
-/

namespace Precis

/-- A batch of a plan. -/
structure PlannedBatch where
  index : Nat
  ids : List Int64
  estimatedTokens : UInt64
  truncated : Bool
  deriving DecidableEq

/-- How items would be packed. -/
structure Plan where
  totalItems : Nat
  maxTokens : UInt64
  maxItems : UInt64
  batches : List PlannedBatch
  deriving DecidableEq

namespace Plan

/-- A line from its characters in reverse; a return at its end is dropped. -/
def lineOf : List Char → List Char
  | '\r' :: line => line.reverse
  | line => line.reverse

/-- The lines of a text after the characters of `line` in reverse. -/
def linesAfter : (line : List Char) → List Char → List (List Char)
  | line, [] => if line.isEmpty then [] else [line.reverse]
  | line, c :: rest =>
    if c = '\n' then lineOf line :: linesAfter [] rest else linesAfter (c :: line) rest

/-- The lines of a text. A line ends with a line feed, before which a return is dropped. -/
def lines (s : String) : List (List Char) := linesAfter [] s.toList

/-- The lines that are not blank, each with its number. -/
def itemLines (s : String) : List (Nat × List Char) :=
  ((lines s).zipIdx 1).filterMap fun l =>
    if l.1.all Text.isBlank then none else some (l.2, l.1)

/-- The item of a line. -/
def itemOf? (line : List Char) : Option Item := (Json.document line).bind Item.ofJson?

/-- The items of numbered lines, or the first line that holds none with its number. -/
def readLines : List (Nat × List Char) → Except (Nat × List Char) (List Item)
  | [] => .ok []
  | (number, line) :: rest =>
    match itemOf? line with
    | none => .error (number, line)
    | some item => (readLines rest).map (item :: ·)

/-- The items of a file, or the first line that is not blank and holds none with its number. -/
def readItems (s : String) : Except (Nat × List Char) (List Item) := readLines (itemLines s)

/-- A batch with its place in the plan. -/
def planned (b : Batch) (index : Nat) : PlannedBatch :=
  { index, ids := b.ids, estimatedTokens := b.estimatedTokens, truncated := b.truncated }

/-- The plan of items under limits, unless a sum of tokens is too large. -/
def ofItems (limits : Limits) (items : List Item) : Option Plan :=
  ((Packer.ofLimits limits).pack items).map fun batches =>
    { totalItems := items.length
      maxTokens := limits.maxTokens
      maxItems := limits.maxItems
      batches := batches.zipIdx.map fun b => planned b.1 b.2 }

/-- The record of a batch. -/
def batchJson (b : PlannedBatch) : Json :=
  Json.record
    [("index", Json.ofNat b.index),
     ("item_ids", .array (b.ids.map Json.ofInt64)),
     ("estimated_tokens", Json.ofUInt64 b.estimatedTokens),
     ("truncated", .bool b.truncated)]

/-- The record of a plan. -/
def toJson (p : Plan) : Json :=
  Json.record
    [("total_items", Json.ofNat p.totalItems),
     ("max_tokens_per_request", Json.ofUInt64 p.maxTokens),
     ("max_batch_size", Json.ofUInt64 p.maxItems),
     ("batches", .array (p.batches.map batchJson))]

/-- The printed plan. -/
def toText (p : Plan) : String := p.toJson.renderIndented

end Plan

end Precis
