import Precis.Source.Cursor

/-!
# A source in memory

The items stand in the order of their positions. A new item goes before those of the same position.
-/

namespace Precis

/-- Items by ascending position. -/
structure Source where
  items : List Item
  deriving DecidableEq, Inhabited

namespace Source

/-- Puts an item into its place. -/
def insertItem (item : Item) : List Item → List Item
  | [] => [item]
  | other :: rest =>
    if other.position < item.position then other :: insertItem item rest
    else item :: other :: rest

/-- The source with one more item. -/
def insert (s : Source) (item : Item) : Source := ⟨insertItem item s.items⟩

/-- The source of a list of items in any order. -/
def ofList (items : List Item) : Source := items.foldl insert ⟨[]⟩

/-- The first items after a cursor, at most `limit` of them. -/
def fetch (s : Source) (after : Cursor) (limit : Nat) : List Item :=
  (s.items.filter after.precedes).take limit

end Source

end Precis
