import Precis.Host.Mapping
import Precis.Host.Punycode
import Precis.Text.Composition
import Precis.Text.Direction
import Precis.Text.Joining
import Precis.Text.Mark

/-!
# Labels of host names

A label is a part of a name between dots. Labels beyond ASCII are checked: they start with no mark,
joiners stand only where the script wants them, and in a name with letters that run from right to
left every label keeps to one direction. A label that starts with `xn--` is the encoding of such a
label.
-/

namespace Precis.Host

open Text

/-- Consists of ASCII characters. -/
def isAscii (s : List Char) : Bool := s.all (·.toNat < 128)

/-- The zero width non-joiner. -/
def nonJoiner : Char := '\u200c'

/-- The zero width joiner. -/
def joiner : Char := '\u200d'

/-- The next character that is not transparent to joining. -/
def nextOpaque (s : List Char) : Option Char := (s.dropWhile isTransparent).head?

/-- A joiner is allowed between what precedes it, from the last character back, and what follows. -/
def joinerAllowed (before : List Char) (c : Char) (after : List Char) : Bool :=
  match before with
  | [] => false
  | previous :: _ =>
    combiningClass previous.toNat = viramaClass
      || (c == nonJoiner && (nextOpaque before).any joinsNext &&
        (nextOpaque after).any joinsPrevious)

/-- Every joiner is allowed where it stands. -/
def joinersAllowed (before : List Char) : List Char → Bool
  | [] => true
  | c :: rest =>
    (!(c == nonJoiner || c == joiner) || joinerAllowed before c rest) &&
      joinersAllowed (c :: before) rest

/-- May stand as a label. -/
def isValidLabel (s : List Char) : Bool :=
  !(s.head?.any isMark) && joinersAllowed [] s

/-! ## Direction -/

/-- Runs from right to left. -/
def isRightward (d : Direction) : Bool :=
  d = .rightToLeft || d = .arabicLetter || d = .arabicNumber

/-- Takes no side. -/
def isNeutral (d : Direction) : Bool :=
  [.europeanNumber, .europeanSeparator, .commonSeparator, .europeanTerminator, .otherNeutral,
    .boundaryNeutral, .nonspacingMark].contains d

/-- Keeps to one direction. -/
def isOneDirection (s : List Char) : Bool :=
  let ds := s.map Direction.of
  let last := (ds.reverse.dropWhile (· = .nonspacingMark)).head?
  match ds with
  | [] => true
  | .leftToRight :: _ =>
    ds.all (fun d => d = .leftToRight || isNeutral d)
      && last.any (fun d => d = .leftToRight || d = .europeanNumber)
  | first :: _ =>
    (first = .rightToLeft || first = .arabicLetter)
      && ds.all (fun d => isRightward d || isNeutral d)
      && last.any (fun d => isRightward d || d = .europeanNumber)
      && !(ds.contains .arabicNumber && ds.contains .europeanNumber)

/-! ## Encoded labels -/

/-- What an encoded label starts with. -/
def encodedMark : List Char := "xn--".toList

/-- Is written as an encoded label. -/
def isEncoded (s : List Char) : Bool := encodedMark.isPrefixOf s

/-- A label as it is read and as it is written. -/
structure Label where
  text : List Char
  ascii : List Char

/-- The label of an encoding. -/
def decodeLabel (s : List Char) : Option Label := do
  let code := s.drop encodedMark.length
  if !isAscii s || code.isEmpty || code.getLast? = some '-' then none
  else
    let text ← Punycode.decode code
    if isValidLabel text && text.all isKept && compose text = text && !isEncoded text then
      return ⟨text, s⟩
    else none

/-- The label of mapped characters. -/
def labelOf (s : List Char) : Option Label :=
  if isEncoded s then decodeLabel s
  else if isAscii s then some ⟨s, s⟩
  else if isValidLabel s then some ⟨s, encodedMark ++ Punycode.encode s⟩
  else none

end Precis.Host
