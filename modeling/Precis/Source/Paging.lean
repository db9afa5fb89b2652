import Precis.Source.Pager
import Precis.Table

/-!
# A pager and its store

The pager together with the store of cursors. A call of the store may be refused; a call that fails
leaves the pager and the store as they were.
-/

namespace Precis

/-- A pager, and the stored cursors by name. -/
structure Paging where
  pager : Pager
  store : Table String String
  deriving DecidableEq

namespace Paging

/-- The stored text of the pager's cursor. -/
def stored (s : Paging) : Option String := s.store.get? s.pager.key

/-- Finds the stored cursor again. -/
def reopen (refused : Option Problem) (s : Paging) : Except Problem Unit × Paging :=
  match refused with
  | some problem => (.error problem, s)
  | none =>
    match s.pager.opened s.stored with
    | .error problem => (.error problem, s)
    | .ok pager => (.ok (), { s with pager })

/-- Reads the next page of a source that answers by `fetch`. -/
def read (fetch : Cursor → Nat → Except Problem (List Item)) (s : Paging) :
    Except Problem (Option (List Item)) × Paging :=
  match s.pager.read fetch with
  | .error problem => (.error problem, s)
  | .ok (page, pager) => (.ok page, { s with pager })

/-- Stores the cursor. -/
def update (refused : Option Problem) (s : Paging) : Except Problem Unit × Paging :=
  match refused with
  | some problem => (.error problem, s)
  | none => (.ok (), { s with store := s.store.insert s.pager.key s.pager.cursor.checkpoint })

/-- Forgets the stored cursor and starts again. -/
def reset (refused : Option Problem) (s : Paging) : Except Problem Unit × Paging :=
  match refused with
  | some problem => (.error problem, s)
  | none => (.ok (), { pager := s.pager.rewound, store := s.store.erase s.pager.key })

/-- Another pager on the same store. -/
def restart (name : String) (settings : ReaderSettings) (s : Paging) : Paging :=
  { s with pager := { name, settings } }

end Paging

end Precis
