import Precis.Text.WordCharacter

/-!
# Patterns in texts

A pattern is looked for anywhere in a text. Letters match in both cases, and besides them the two
characters that fold to an ASCII letter: the long s and the Kelvin sign. A place in a text is the
character before it, if any, and the rest after it; a boundary asks both.
-/

namespace Precis.Text

/-- A pattern. -/
inductive Pattern where
  /-- One character; the pattern spells letters in lower case. -/
  | char (c : Char)
  /-- One decimal digit of any script. -/
  | digit
  /-- One character that is no line feed. -/
  | any
  /-- Any number of characters, none of them a line feed. -/
  | gap
  /-- No character, between a word character and something else. -/
  | boundary
  /-- No character. -/
  | nothing
  | seq (p q : Pattern)
  | alt (p q : Pattern)

namespace Pattern

/-- The small letter that a character folds to, among ASCII. -/
def fold (c : Char) : Char :=
  if c = '\u017f' then 's' else if c = '\u212a' then 'k' else c.toLower

/-- Is a word character, for the place before or after a text. -/
def wordAt : Option Char → Bool
  | none => false
  | some c => isWord c

/-- A place between a word character and something else. -/
def atBoundary (before : Option Char) (rest : List Char) : Bool :=
  wordAt before != wordAt rest.head?

/-- `then` holds after some characters of `rest`, none of them a line feed. -/
def skipGap (next : Option Char → List Char → Bool) (before : Option Char) : List Char → Bool
  | [] => next before []
  | c :: rest => next before (c :: rest) || (c != '\n' && skipGap next (some c) rest)

/-- The pattern matches at a place, and `next` holds where the match ends. -/
def matchThen : Pattern → Option Char → List Char → (Option Char → List Char → Bool) → Bool
  | char p, _, s, next =>
    match s with
    | [] => false
    | c :: rest => fold c == p && next (some c) rest
  | digit, _, s, next =>
    match s with
    | [] => false
    | c :: rest => isDecimalDigit c && next (some c) rest
  | any, _, s, next =>
    match s with
    | [] => false
    | c :: rest => c != '\n' && next (some c) rest
  | gap, before, s, next => skipGap next before s
  | boundary, before, s, next => atBoundary before s && next before s
  | nothing, before, s, next => next before s
  | seq p q, before, s, next => p.matchThen before s fun before s => q.matchThen before s next
  | alt p q, before, s, next => p.matchThen before s next || q.matchThen before s next

/-- The pattern matches at a place. -/
def matchesAt (p : Pattern) (before : Option Char) (s : List Char) : Bool :=
  p.matchThen before s fun _ _ => true

/-- The pattern matches at a place or at a later one. -/
def occursFrom (p : Pattern) (before : Option Char) : List Char → Bool
  | [] => p.matchesAt before []
  | c :: rest => p.matchesAt before (c :: rest) || p.occursFrom (some c) rest

/-- The pattern matches somewhere. -/
def occursIn (p : Pattern) (s : String) : Bool := p.occursFrom none s.toList

/-- The pattern or nothing. -/
def optional (p : Pattern) : Pattern := alt p nothing

/-- One pattern after the other. -/
def inOrder : List Pattern → Pattern
  | [] => nothing
  | [p] => p
  | p :: rest => seq p (inOrder rest)

/-- Any one of the patterns; there is at least one. -/
def oneOf : List Pattern → Pattern
  | [] => nothing
  | [p] => p
  | p :: rest => alt p (oneOf rest)

/-- The characters of a text in order. -/
def word (s : String) : Pattern := inOrder (s.toList.map char)

/-- A pattern that stands between boundaries. -/
def alone (p : Pattern) : Pattern := inOrder [boundary, p, boundary]

end Pattern

end Precis.Text
