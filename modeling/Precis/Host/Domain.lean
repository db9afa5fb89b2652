import Precis.Host.Label

/-!
# Domains

The ASCII form of a domain: its characters are mapped and composed, and each label is checked and,
if need be, encoded. Some ASCII characters never stand in a domain.
-/

namespace Precis.Host

open Text

/-- An ASCII character that is not allowed in a domain. -/
def isForbidden (c : Char) : Bool :=
  c.toNat ≤ 0x20 || c.toNat = 0x7F || "%#/:<>?@[\\]^|".toList.contains c

/-- Cuts a list at every character that satisfies `p`. -/
def cutAt (p : Char → Bool) : List Char → List (List Char)
  | [] => [[]]
  | c :: rest =>
    if p c then [] :: cutAt p rest
    else
      match cutAt p rest with
      | [] => [[c]]
      | first :: others => (c :: first) :: others

/-- The labels of a name. -/
def labels (s : List Char) : List (List Char) := cutAt (· == '.') s

/-- The name of labels. -/
def joinLabels (ls : List (List Char)) : List Char := ['.'].intercalate ls

/-- The characters that take the place of a text's, in composed form. -/
def mapped (s : List Char) : Option (List Char) :=
  (s.mapM mapChar).map fun parts => compose parts.flatten

/-- The ASCII form of a name beyond ASCII, or with encoded labels. -/
def encodeDomain (s : List Char) : Option (List Char) := do
  let ls ← (labels (← mapped s)).mapM labelOf
  let mixed := ls.any fun l => l.text.any fun c => isRightward (Direction.of c)
  if mixed && !ls.all (fun l => isOneDirection l.text) then none
  else return joinLabels (ls.map (·.ascii))

/-- The ASCII form of a domain. -/
def asciiDomain (s : List Char) : Option (List Char) := do
  let small := s.map Char.toLower
  let plain := isAscii s && !(labels small).any isEncoded
  let domain ← if plain then some small else encodeDomain s
  if domain.isEmpty || domain.any isForbidden then none else return domain

end Precis.Host
