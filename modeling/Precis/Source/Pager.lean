import Precis.Problem
import Precis.Source.Cursor
import Precis.Tree

/-!
# Reading a source page by page

A pager moves a cursor over a source. The cursor is stored under the pager's name by `update` and
found again by `opened`; what was read since is read again after a crash. A source may answer with
anything: a page counts only when its items follow the cursor in strictly ascending order.
-/

namespace Precis

/-- How a source is read. -/
structure ReaderSettings where
  pageSize : UInt64 := 100
  /-- The largest number of items of one run. -/
  maxCount : Option UInt64 := none
  deriving DecidableEq, Repr, Inhabited

namespace ReaderSettings

/-- The settings of a record; what is left out has its default. -/
def read? [Document δ] (v : δ) : Option ReaderSettings := do
  let r ← Document.slots ["page_size", "max_count"] v
  let d : ReaderSettings := {}
  return {
    pageSize := ← (r.get "page_size").withDefault d.pageSize Document.uint64?
    maxCount := ← (r.get "max_count").withDefault none (Document.orNull Document.uint64?) }

/-- The settings as a record. -/
def toTree (s : ReaderSettings) : Tree :=
  .record
    [("page_size", .uint64 s.pageSize),
     ("max_count", .orNull .uint64 s.maxCount)]

end ReaderSettings

/-- A reader of a source. -/
structure Pager where
  name : String
  settings : ReaderSettings
  cursor : Cursor := Cursor.start
  /-- The number of pages read since the pager was opened. -/
  pagesRead : Nat := 0
  /-- The number of items read since the pager was opened. -/
  readThisRun : Nat := 0
  deriving DecidableEq, Inhabited

namespace Pager

/-- The name under which the cursor is stored. -/
def key (p : Pager) : String := p.name ++ ".cursor"

/-- Where the pager's problems are met. -/
def context (p : Pager) : Context := { field := some p.key, source := some "cursor_pager" }

/-- The pager at the start of a run, with the cursor that was stored. -/
def opened (p : Pager) (blob : Option String) : Except Problem Pager :=
  match blob with
  | none => .ok { p with cursor := Cursor.start, pagesRead := 0, readThisRun := 0 }
  | some text =>
    match Cursor.ofCheckpoint? text with
    | some cursor => .ok { p with cursor, pagesRead := 0, readThisRun := 0 }
    | none => .error (.corruptCheckpoint p.context)

/-- The largest number of items of the next page; no page is asked for when it is zero. -/
def limit (p : Pager) : Nat :=
  match p.settings.maxCount with
  | none => p.settings.pageSize.toNat
  | some most => min p.settings.pageSize.toNat (most.toNat - p.readThisRun)

/-- Each item stands before the next one. -/
def isAscending : List Item → Bool
  | a :: b :: rest => a.position < b.position && isAscending (b :: rest)
  | _ => true

/-- The page follows the cursor. -/
def inOrder (p : Pager) (page : List Item) : Bool :=
  (match page with
    | [] => true
    | first :: _ => p.cursor.precedes first)
  && isAscending page

/-- The page is out of order. -/
def disorder (p : Pager) : Problem :=
  .stated .source
    "source returned a page that is not strictly after the cursor in (timestamp, id) order"
    p.context

/-- The page in what a source answered, and the pager after it. -/
def accept (p : Pager) (answer : List Item) : Except Problem (Option (List Item) × Pager) :=
  let page := answer.take p.limit
  if page.isEmpty then .ok (none, p)
  else if p.inOrder page then
    .ok (some page,
      { p with
        cursor := p.cursor.advance page
        pagesRead := p.pagesRead + 1
        readThisRun := p.readThisRun + page.length })
  else .error p.disorder

/-- The next page of a source, and the pager after it. -/
def read (p : Pager) (fetch : Cursor → Nat → Except Problem (List Item)) :
    Except Problem (Option (List Item) × Pager) :=
  if p.limit = 0 then .ok (none, p)
  else
    match fetch p.cursor p.limit with
    | .error problem => .error problem
    | .ok answer => p.accept answer

/-- The pager before every item; what was counted of this run stays. -/
def rewound (p : Pager) : Pager := { p with cursor := Cursor.start }

end Pager

end Precis
