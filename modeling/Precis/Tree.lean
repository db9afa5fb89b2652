/-!
# Trees of settings

Settings are written as a tree of named values, whatever the format. Records keep the order of their
fields.
-/

namespace Precis

/-- A value to be written. -/
inductive Tree where
  | null
  | bool (b : Bool)
  | nat (n : Nat)
  | float (x : Float)
  | text (s : String)
  | record (fields : List (String × Tree))
  deriving Inhabited

namespace Tree

/-- A word. -/
def uint64 (n : UInt64) : Tree := nat n.toNat

/-- A word. -/
def uint32 (n : UInt32) : Tree := nat n.toNat

/-- A value or null. -/
def orNull (write : α → Tree) : Option α → Tree
  | none => null
  | some a => write a

end Tree

end Precis
