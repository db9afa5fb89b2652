/-!
# Places in a text

Yaml tells apart blanks (space and tab) and breaks (five characters, of which return and line feed
together are one). A place is a rest of a text with the line and the column where it starts.
-/

namespace Precis.Yaml

/-- A space or a tab. -/
def isBlank (c : Char) : Bool := c == ' ' || c == '\t'

/-- Ends a line. -/
def isBreak (c : Char) : Bool :=
  c == '\n' || c == '\r' || c == '\x85' || c == '\u2028' || c == '\u2029'

/-- Stands between words: a blank or a break. -/
def isGap (c : Char) : Bool := isBlank c || isBreak c

/-- A letter, a digit, a hyphen or an underscore of ASCII. -/
def isNameChar (c : Char) : Bool := c.isAlphanum || c == '_' || c == '-'

/-- May stand in a text. Control characters may not, and neither may the mark of byte order. -/
def isAllowed (c : Char) : Bool :=
  let n := c.toNat
  n = 0x09 || n = 0x0A || n = 0x0D || (0x20 ≤ n && n ≤ 0x7E) || n = 0x85
    || (0xA0 ≤ n && n ≤ 0xFFFD && n ≠ 0xFEFF) || 0x10000 ≤ n

/-- Starts with one of the characters of `among`. -/
def startsAmong (among : String) : List Char → Bool
  | [] => false
  | c :: _ => among.toList.contains c

/-- Is empty or starts with a blank or a break. -/
def startsGap : List Char → Bool
  | [] => true
  | c :: _ => isGap c

/-- A rest of a text, and where it starts. -/
structure Place where
  rest : List Char
  index : Nat := 0
  line : Nat := 0
  column : Nat := 0
  deriving Inhabited

namespace Place

/-- Moves over `n` characters of one line. -/
def skip (p : Place) (n : Nat) : Place :=
  { p with rest := p.rest.drop n, index := p.index + n, column := p.column + n }

/-- The characters up to the first one without a property. -/
def upTo (p : Place) (q : Char → Bool) : List Char := p.rest.takeWhile q

/-- Moves over characters of one line with a property. -/
def skipAll (p : Place) (q : Char → Bool) : Place := p.skip (p.upTo q).length

/-- At the end of the text. -/
def isEnd (p : Place) : Bool := p.rest.isEmpty

/-- The next character has a property. -/
def at? (p : Place) (q : Char → Bool) : Bool := p.rest.head?.any q

/-- A break as it counts in a text: a line feed, or one of the two breaks that keep their form. -/
def lineBreak (p : Place) : List Char :=
  match p.rest with
  | c :: _ =>
    if c == '\u2028' || c == '\u2029' then [c] else if isBreak c then ['\n'] else []
  | [] => []

/-- Moves over a break, if there is one. -/
def nextLine (p : Place) : Place :=
  match p.rest with
  | '\r' :: '\n' :: rest => ⟨rest, p.index + 2, p.line + 1, 0⟩
  | c :: rest => if isBreak c then ⟨rest, p.index + 1, p.line + 1, 0⟩ else p
  | [] => p

/-- Three equal characters at the start of a line, with a gap after them. -/
def atMarker (p : Place) (c : Char) : Bool :=
  p.column == 0 && p.rest.take 3 == [c, c, c] && startsGap (p.rest.drop 3)

/-- At the marker of the start or the end of a document. -/
def atDocument (p : Place) : Bool := p.atMarker '-' || p.atMarker '.'

/-- After blanks, comments and breaks. Tabs do not count as blanks where a key may start, which
`keys` says; a new line lets a key start, outside brackets. Gives the place and whether a key may
start there. -/
def skipToToken (flow : Bool) : (fuel : Nat) → (keys : Bool) → Place → Place × Bool
  | 0, keys, p => (p, keys)
  | fuel + 1, keys, p =>
    let tabs := flow || !keys
    let p := p.skipAll fun c => c == ' ' || (tabs && c == '\t')
    let p := if p.at? (· == '#') then p.skipAll fun c => !isBreak c else p
    if p.at? isBreak then skipToToken flow fuel (keys || !flow) p.nextLine else (p, keys)

end Place

end Precis.Yaml
