import Precis.Text.Encoding
import Precis.Tree
import Precis.Yaml.Place
import Precis.Yaml.Plain

/-!
# Printing Yaml

A tree is printed with one field a line, the fields of a record indented by two blanks. A text is
plain where it reads back as itself, in a block of lines where it has several, and between quotes
otherwise.
-/

namespace Precis.Yaml

open Text

/-- Words that other readers take for truth values. -/
def oldTruthWords : List String :=
  ["y", "Y", "yes", "Yes", "YES", "n", "N", "no", "No", "NO", "on", "On", "ON", "off", "Off", "OFF"]

/-- A plain scalar of this text is an integer of at most 128 bits. -/
def spellsInteger (s : List Char) : Bool :=
  (natOf? s).any (· < Nat.pow 2 128)
    || (match s with
      | '-' :: rest =>
        ((basedNat? rest).or (if isPaddedNumber rest then none else digitsIn 10 rest)).any
          (· ≤ Nat.pow 2 127)
      | _ => false)

/-- A plain scalar of this text would be taken for something else, here or elsewhere. -/
def isAmbiguous (s : String) : Bool :=
  s.isEmpty || oldTruthWords.contains s || isNullWord s || (boolOf? s).isSome
    || isPaddedNumber s.toList || spellsInteger s.toList || (floatOf? s).isSome

/-- Is printed as it is. Characters beyond 16 bits are not. -/
def isPrintable (c : Char) : Bool :=
  let n := c.toNat
  n = 0x0A || (0x20 ≤ n && n ≤ 0x7E) || (0xA0 ≤ n && n ≤ 0xFFFD && n ≠ 0xFEFF)

/-- A plain scalar cannot start with this text. -/
def startsBadly : List Char → Bool
  | [] => false
  | c :: rest =>
    startsAmong "#,[]\x7b\x7d&*!|>'\"%@`" [c]
      || (startsAmong "?:-" [c] && startsGap rest)

/-- Inside a plain scalar this text would start a value or a comment. -/
def holdsMark : List Char → Bool
  | [] => false
  | a :: rest =>
    (match rest with
      | ':' :: after => startsGap after
      | '#' :: _ => isGap a
      | _ => false)
    || holdsMark rest

/-- A space stands after or before a break. -/
def hasLooseSpace (q r : Char → Bool) : List Char → Bool
  | a :: b :: rest => (q a && r b) || hasLooseSpace q r (b :: rest)
  | _ => false

/-- A space. -/
def isSpace (c : Char) : Bool := c == ' '

/-- The forms in which a text can be printed. -/
structure Forms where
  plain : Bool
  single : Bool
  block : Bool

/-- The forms of a text that is not empty. -/
def formsOf (s : List Char) : Forms :=
  let special := hasLooseSpace isSpace isBreak s || s.any (!isPrintable ·)
  let breakSpace := hasLooseSpace isBreak isSpace s
  let atEnds := fun (q : Char → Bool) => s.head?.any q || s.getLast?.any q
  let marker := s.take 3 == "---".toList || s.take 3 == "...".toList
  { plain :=
      !(special || breakSpace || s.any isBreak || atEnds isSpace || marker || startsBadly s
        || holdsMark s)
    single := !(special || breakSpace)
    block := !(special || s.getLast?.any isSpace) }

/-- Indentation. -/
def blanks (n : Nat) : List Char := List.replicate n ' '

/-- Lines of a text, each but the first after `n` blanks; `started` says that a line has begun. -/
def indented (n : Nat) : (started : Bool) → List Char → List Char
  | _, [] => []
  | started, c :: rest =>
    if isBreak c then c :: indented n false rest
    else (if started then [] else blanks n) ++ c :: indented n true rest

/-- A text between single quotes. -/
def singleQuoted (n : Nat) (s : List Char) : List Char :=
  let doubled := s.flatMap fun c => if c == '\'' then ['\'', '\''] else [c]
  let tail := if s.getLast?.any isBreak then blanks n else []
  '\'' :: indented n true doubled ++ tail ++ ['\'']

/-- A number in so many hexadecimal digits in capitals. -/
def upperHex (width n : Nat) : List Char :=
  (List.range width).map fun i => upperHexDigit (n / Nat.pow 16 (width - 1 - i) % 16)

/-- The letter of an escape. -/
def escapeLetter? : Char → Option Char
  | '\x00' => some '0'
  | '\x07' => some 'a'
  | '\x08' => some 'b'
  | '\t' => some 't'
  | '\n' => some 'n'
  | '\x0b' => some 'v'
  | '\x0c' => some 'f'
  | '\r' => some 'r'
  | '\x1b' => some 'e'
  | '"' => some '"'
  | '\\' => some '\\'
  | '\x85' => some 'N'
  | '\u2028' => some 'L'
  | '\u2029' => some 'P'
  | _ => none

/-- A character between double quotes. -/
def escapedChar (c : Char) : List Char :=
  if isPrintable c && !isBreak c && c != '"' && c != '\\' then [c]
  else
    let n := c.toNat
    match escapeLetter? c with
    | some letter => ['\\', letter]
    | none =>
      if n ≤ 0xFF then '\\' :: 'x' :: upperHex 2 n
      else if n ≤ 0xFFFF then '\\' :: 'u' :: upperHex 4 n
      else '\\' :: 'U' :: upperHex 8 n

/-- A text between double quotes. -/
def doubleQuoted (s : List Char) : List Char := '"' :: s.flatMap escapedChar ++ ['"']

/-- The head of a block: whether it starts with a blank or a break, and how it ends. -/
def blockHints (s : List Char) : List Char :=
  (if s.head?.any fun c => c == ' ' || isBreak c then ['2'] else [])
    ++ (match s.reverse with
      | [] => ['-']
      | [c] => if isBreak c then ['+'] else ['-']
      | c :: d :: _ => if !isBreak c then ['-'] else if isBreak d then ['+'] else [])

/-- A text in a block of lines; the break after the last line belongs to what follows. -/
def blockText (n : Nat) (s : List Char) : List Char :=
  '|' :: blockHints s ++ '\n' :: indented n false s

/-- A text of several lines, as a block if it can be one. -/
def linesText (n : Nat) (s : List Char) : List Char :=
  if (formsOf s).block then blockText n s else doubleQuoted s

/-- A text whose further lines are indented by `n` blanks. -/
def scalarText (n : Nat) (s : String) : List Char :=
  let cs := s.toList
  if cs.contains '\n' then linesText n cs
  else
    let forms := formsOf cs
    if forms.plain && !isAmbiguous s then cs
    else if forms.single then singleQuoted n cs
    else doubleQuoted cs

/-- A double. -/
def floatText (x : Float) : List Char :=
  if x.isNaN then ".nan".toList
  else if x.isFinite then Decimal.write x
  else (if x < 0 then "-.inf" else ".inf").toList

/-- A break, unless the text before it ends with one. -/
def endLine (s : List Char) : List Char := if s.getLast?.any isBreak then s else s ++ ['\n']

/-- A key that stands on one line and is not too long. -/
def isShortKey (s : String) : Bool := !s.toList.any isBreak && s.utf8ByteSize ≤ 128

/-- A key at an indentation, with its colon. -/
def keyText (n : Nat) (s : String) : List Char :=
  let text := scalarText (n + 2) s
  if isShortKey s then blanks n ++ text ++ [':']
  else endLine (blanks n ++ '?' :: ' ' :: text) ++ blanks n ++ [':']

mutual

/-- A value after its key, up to the end of its last line. -/
def valueText (n : Nat) : Tree → List Char
  | .null => " null\n".toList
  | .bool true => " true\n".toList
  | .bool false => " false\n".toList
  | .nat k => ' ' :: decimalDigits k ++ ['\n']
  | .float x => ' ' :: floatText x ++ ['\n']
  | .text s => endLine (' ' :: scalarText (n + 2) s)
  | .record [] => " \x7b\x7d\n".toList
  | .record fields => '\n' :: fieldsText (n + 2) fields

/-- Fields at an indentation. -/
def fieldsText (n : Nat) : List (String × Tree) → List Char
  | [] => []
  | (k, v) :: rest => keyText n k ++ valueText n v ++ fieldsText n rest

end

/-- The text of a record. -/
def print (fields : List (String × Tree)) : String := String.ofList (fieldsText 0 fields)

end Precis.Yaml
