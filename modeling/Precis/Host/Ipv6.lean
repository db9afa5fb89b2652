import Precis.Host.Domain
import Precis.Text.Numeral

/-!
# Addresses of eight groups

Eight groups of up to four hexadecimal digits with colons between them; two colons in a row stand
for one or more groups of zero, and the last two groups may be written as four bytes. The usual form
leaves out the longest run of zeros.
-/

namespace Precis.Host.Ipv6

open Text

/-- A group of one to four hexadecimal digits. -/
def group? (s : List Char) : Option Nat :=
  if s.isEmpty || 4 < s.length then none
  else s.foldlM (fun n c => (hexDigit? c).map (n * 16 + ·)) 0

/-- A byte in decimal form without a spare zero. -/
def byte? (s : List Char) : Option Nat :=
  if s.isEmpty || !s.all Char.isDigit || 3 < s.length || (s.head? = some '0' && 1 < s.length) then
    none
  else if 255 < ofDigits s then none
  else some (ofDigits s)

/-- The two groups of four bytes. -/
def fourBytes? (s : List Char) : Option (List Nat) :=
  match labels s with
  | [a, b, c, d] => do return [(← byte? a) * 256 + (← byte? b), (← byte? c) * 256 + (← byte? d)]
  | _ => none

/-- Groups with colons between them, of which the last one may be four bytes. -/
def groups? : List (List Char) → Option (List Nat)
  | [] => some []
  | [s] => if s.contains '.' then fourBytes? s else (group? s).map ([·])
  | s :: rest => do return (← group? s) :: (← groups? rest)

/-- What stands before two colons in a row and what after them, if they are there. -/
def splitAtGap (before : List Char) : List Char → Option (List Char × List Char)
  | ':' :: ':' :: rest => some (before.reverse, rest)
  | c :: rest => splitAtGap (c :: before) rest
  | [] => none

/-- The groups of a text without a gap. -/
def side? (s : List Char) : Option (List Nat) :=
  if s.isEmpty then some [] else groups? (cutAt (· == ':') s)

/-- The eight groups of an address. -/
def parse? (s : List Char) : Option (List Nat) :=
  match splitAtGap [] s with
  | none => do
    let gs ← side? s
    if gs.length = 8 then return gs else none
  | some (before, after) => do
    let left ← if before.contains '.' then none else side? before
    let right ← side? after
    if left.length + right.length ≤ 7 then
      return left ++ List.replicate (8 - left.length - right.length) 0 ++ right
    else none

/-- Hexadecimal digits of a group. -/
def hexDigits (n : Nat) : List Char :=
  let digits := [n / 4096 % 16, n / 256 % 16, n / 16 % 16].dropWhile (· = 0)
  (digits ++ [n % 16]).map digitChar

/-- The number of zeros that a list starts with. -/
def zerosAhead (gs : List Nat) : Nat := (gs.takeWhile (· = 0)).length

/-- The place and the length of the first longest run of zeros. -/
def longestRun (gs : List Nat) : Nat × Nat :=
  (List.range gs.length).foldl
    (fun best i => if best.2 < zerosAhead (gs.drop i) then (i, zerosAhead (gs.drop i)) else best)
    (0, 0)

/-- Groups with colons between them. -/
def writeGroups (gs : List Nat) : List Char := [':'].intercalate (gs.map hexDigits)

/-- The text of an address. -/
def write (gs : List Nat) : List Char :=
  let (start, length) := longestRun gs
  if length < 2 then writeGroups gs
  else writeGroups (gs.take start) ++ "::".toList ++ writeGroups (gs.drop (start + length))

/-- The usual form of an address between brackets. -/
def normal? (s : List Char) : Option (List Char) :=
  match s with
  | '[' :: rest =>
    if rest.getLast? = some ']' then (parse? rest.dropLast).map fun gs => '[' :: write gs ++ [']']
    else none
  | _ => none

end Precis.Host.Ipv6
