/-!
# Tables of code points

A property of characters given by a standard is a list of rows in increasing order. Rows are written
with hexadecimal numbers, ranges as `a-b` or `a` alone, and separated by blanks. A row is found by
halving.
-/

namespace Precis.Text

/-- The value of a hexadecimal digit in capitals; other characters count as zero. -/
def hexValue (c : Char) : Nat :=
  if '0' ≤ c && c ≤ '9' then c.toNat - 48
  else if 'A' ≤ c && c ≤ 'F' then c.toNat - 55
  else 0

/-- The number written by capital hexadecimal digits. -/
def hexNumber (s : List Char) : Nat := s.foldl (fun n c => 16 * n + hexValue c) 0

/-- Cuts a list at every character that satisfies `p`, leaving out empty pieces. -/
def pieces (p : Char → Bool) (s : List Char) : List (List Char) :=
  let step := fun (c : Char) (acc : List Char × List (List Char)) =>
    if p c then ([], if acc.1.isEmpty then acc.2 else acc.1 :: acc.2) else (c :: acc.1, acc.2)
  let r := s.foldr step ([], [])
  if r.1.isEmpty then r.2 else r.1 :: r.2

/-- The rows of a written table. -/
def rowsOf (table : String) : List (List Char) :=
  pieces (fun c => c == ' ' || c == '\n') table.toList

/-- A written range. -/
def rangeOf (s : List Char) : Nat × Nat :=
  match pieces (· == '-') s with
  | [a] => (hexNumber a, hexNumber a)
  | a :: b :: _ => (hexNumber a, hexNumber b)
  | [] => (1, 0)

/-- The row whose range holds `n`, among those between the places `lo` and `hi`. -/
def findRow (range : α → Nat × Nat) (rows : Array α) (n lo hi : Nat) : Option α :=
  if lo < hi then
    let mid := (lo + hi) / 2
    match rows[mid]? with
    | none => none
    | some row =>
      if n < (range row).1 then findRow range rows n lo mid
      else if (range row).2 < n then findRow range rows n (mid + 1) hi
      else some row
  else none
termination_by hi - lo

/-- The row whose range holds `n`. -/
def lookupRow (range : α → Nat × Nat) (rows : Array α) (n : Nat) : Option α :=
  findRow range rows n 0 rows.size

/-- A set of code points, as disjoint ranges in increasing order. -/
structure CodePoints where
  ranges : Array (Nat × Nat)

namespace CodePoints

/-- The set written by a table of ranges. -/
def ofTable (table : String) : CodePoints := ⟨((rowsOf table).map rangeOf).toArray⟩

/-- Membership. -/
def contains (s : CodePoints) (c : Char) : Bool := (lookupRow id s.ranges c.toNat).isSome

end CodePoints

end Precis.Text
