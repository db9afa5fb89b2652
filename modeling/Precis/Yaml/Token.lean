import Precis.Text.Encoding
import Precis.Yaml.Scalar

/-!
# Tokens

A document is cut into tokens. Blocks have no brackets, so their starts and ends follow from the
columns; and a key of a mapping is known as one only when its colon is met, so a lexer remembers
where a key may have started and puts the tokens in front of it later. Such a key stands on one line
and is not longer than 1024 characters.
-/

namespace Precis.Yaml

open Text

/-- A token of a document. -/
inductive Token where
  | version (major minor : Nat)
  | handle (name expansion : List Char)
  | documentStart
  | documentEnd
  | sequenceStart
  | mappingStart
  | blockEnd
  | openBracket
  | closeBracket
  | openBrace
  | closeBrace
  | comma
  | entry
  | key
  | value
  | alias (name : List Char)
  | anchor (name : List Char)
  | tag (handle suffix : List Char)
  | scalar (text : List Char) (style : Style)
  deriving DecidableEq, Repr

/-! ## Directives, anchors and tags -/

/-- A number of at most nine digits. -/
def versionPart (p : Place) : Option (Nat × Place) :=
  let digits := p.upTo Char.isDigit
  if digits.isEmpty || 9 < digits.length then none else some (ofDigits digits, p.skip digits.length)

/-- The two numbers of a version. -/
def versionAt (p : Place) : Option (Token × Place) := do
  let (major, p) ← versionPart p
  if !p.at? (· == '.') then none
  else
    let (minor, p) ← versionPart (p.skip 1)
    return (.version major minor, p)

/-- A character of the name that a tag stands for. -/
def isTagChar (verbatim : Bool) (c : Char) : Bool :=
  isNameChar c || startsAmong ";/?:@&=+$.%!~*'()" [c] || (verbatim && startsAmong ",[]" [c])

/-- Two hexadecimal digits follow each percent sign. -/
def escapesAreWhole : List Char → Bool
  | '%' :: a :: b :: rest => (hexDigit? a).isSome && (hexDigit? b).isSome && escapesAreWhole rest
  | '%' :: _ => false
  | _ :: rest => escapesAreWhole rest
  | [] => true

/-- The characters of a tag, which may be escaped. -/
def tagText (verbatim : Bool) (p : Place) : Option (List Char × Place) :=
  let s := p.upTo (isTagChar verbatim)
  if escapesAreWhole s then (percentDecode s).map fun t => (t, p.skip s.length) else none

/-- A handle: a mark of exclamation, perhaps with a name and another mark. -/
def handleAt (p : Place) : Option (List Char × Place) :=
  if !p.at? (· == '!') then none
  else
    let name := (p.skip 1).upTo isNameChar
    let q := p.skip (1 + name.length)
    if q.at? (· == '!') then some ('!' :: name ++ ['!'], q.skip 1) else some ('!' :: name, q)

/-- The handle and the expansion of a tag directive. -/
def handleDirective (p : Place) : Option (Token × Place) := do
  let (name, p) ← handleAt p
  if (name != ['!'] && name.getLast? != some '!') || !p.at? isBlank then none
  else
    let (expansion, p) ← tagText true (p.skipAll isBlank)
    if expansion.isEmpty || !startsGap p.rest then none else return (.handle name expansion, p)

/-- A directive after its percent sign, up to the end of its line. -/
def directiveAt (p : Place) : Option (Token × Place) := do
  let name := p.upTo isNameChar
  let p := p.skip name.length
  if !startsGap p.rest then none
  else
    let p := p.skipAll isBlank
    let (token, p) ←
      if name == "YAML".toList then versionAt p
      else if name == "TAG".toList then handleDirective p
      else none
    let p := p.skipAll isBlank
    let p := if p.at? (· == '#') then p.skipAll fun c => !isBreak c else p
    if p.isEnd || p.at? isBreak then return (token, p.nextLine) else none

/-- The name of an anchor or alias, after its mark. -/
def anchorName (p : Place) : Option (List Char × Place) :=
  let name := p.upTo isNameChar
  let q := p.skip name.length
  if name.isEmpty || !(startsGap q.rest || startsAmong "?:,]\x7d%@`" q.rest) then none
  else some (name, q)

/-- A tag with a name between angles. -/
def verbatimTag (p : Place) : Option (Token × Place) := do
  let (suffix, p) ← tagText true p
  if suffix.isEmpty || !p.at? (· == '>') then none else return (.tag [] suffix, p.skip 1)

/-- A tag with a handle, or with the handle that is a mark alone. -/
def shortTag (p : Place) : Option (Token × Place) := do
  let (handle, q) ← handleAt p
  if 1 < handle.length && handle.getLast? == some '!' then
    let (suffix, q) ← tagText false q
    if suffix.isEmpty then none else return (.tag handle suffix, q)
  else
    let (rest, q) ← tagText false q
    let suffix := handle.drop 1 ++ rest
    return (if suffix.isEmpty then .tag [] ['!'] else .tag ['!'] suffix, q)

/-- A tag, and a gap after it; inside brackets a comma does as well. -/
def tagAt (flow : Bool) (p : Place) : Option (Token × Place) := do
  let (token, q) ←
    if (p.skip 1).at? (· == '<') then verbatimTag (p.skip 2) else shortTag p
  if startsGap q.rest || (flow && q.at? (· == ',')) then return (token, q) else none

/-! ## The lexer -/

/-- Where a key may have started. -/
structure PossibleKey where
  /-- The number of tokens before it. -/
  tokens : Nat
  place : Place
  /-- No other token can start at this place. -/
  needed : Bool

/-- A text under way. -/
structure Lexer where
  place : Place
  tokens : List Token := []
  /-- The columns of the open blocks, the innermost first. -/
  blocks : List Nat := []
  /-- The key that may have started inside the innermost brackets. -/
  possible : Option PossibleKey := none
  /-- The same for the brackets around them. -/
  outer : List (Option PossibleKey) := []
  /-- A key may start here. -/
  keys : Bool := true

namespace Lexer

/-- Inside brackets. -/
def inFlow (l : Lexer) : Bool := !l.outer.isEmpty

/-- The column where the content of the innermost block starts at the earliest. -/
def margin (l : Lexer) : Nat :=
  match l.blocks with
  | [] => 0
  | column :: _ => column + 1

/-- One more token. -/
def emit (l : Lexer) (t : Token) : Lexer := { l with tokens := l.tokens ++ [t] }

/-- Closes the blocks from the column `least` on. -/
def closeFrom (l : Lexer) (least : Nat) : Lexer :=
  let closed := l.blocks.takeWhile (least ≤ ·)
  { l with
    tokens := l.tokens ++ closed.map fun _ => .blockEnd
    blocks := l.blocks.drop closed.length }

/-- Closes the blocks right of the next token, outside brackets. -/
def unindent (l : Lexer) : Lexer := if l.inFlow then l else l.closeFrom (l.place.column + 1)

/-- Opens a block at a column, if it lies right of the open ones; its token goes before the token
with the number `at`. -/
def indent (l : Lexer) (column before : Nat) (t : Token) : Lexer :=
  if !l.inFlow && l.margin ≤ column then
    { l with blocks := column :: l.blocks, tokens := l.tokens.insertIdx before t }
  else l

/-- Gives up a key that may have started; fails if nothing else can have. -/
def dropKey (l : Lexer) : Option Lexer :=
  match l.possible with
  | some k => if k.needed then none else some { l with possible := none }
  | none => some l

/-- Remembers that a key may start here. -/
def noteKey (l : Lexer) : Option Lexer :=
  if l.keys then do
    let l ← l.dropKey
    let needed := !l.inFlow && l.blocks.head? == some l.place.column
    return { l with possible := some ⟨l.tokens.length, l.place, needed⟩ }
  else some l

/-- Gives up keys that started on another line or too far back. -/
def dropStale (l : Lexer) : Option Lexer := do
  let isStale := fun (k : PossibleKey) =>
    k.place.line < l.place.line || k.place.index + 1024 < l.place.index
  let keep := fun (k : Option PossibleKey) =>
    match k with
    | some key =>
      if isStale key then (if key.needed then none else some none) else some k
    | none => some none
  return { l with possible := ← keep l.possible, outer := ← l.outer.mapM keep }

/-- A token of `n` characters. -/
def mark (l : Lexer) (t : Token) (n : Nat) : Lexer :=
  { l.emit t with place := l.place.skip n }

/-- A marker of the start or the end of a document. -/
def document (l : Lexer) (t : Token) : Option Lexer := do
  let l ← (l.closeFrom 0).dropKey
  return { l.mark t 3 with keys := false }

/-- A directive. -/
def directive (l : Lexer) : Option Lexer := do
  let l ← (l.closeFrom 0).dropKey
  let (t, place) ← directiveAt (l.place.skip 1)
  return { l.emit t with place, keys := false }

/-- An opening bracket. -/
def opening (l : Lexer) (t : Token) : Option Lexer := do
  let l ← l.noteKey
  return { l.mark t 1 with possible := none, outer := l.possible :: l.outer, keys := true }

/-- A closing bracket. -/
def closing (l : Lexer) (t : Token) : Option Lexer := do
  let l ← l.dropKey
  let l : Lexer := match l.outer with
    | k :: outer => { l with possible := k, outer }
    | [] => l
  return { l.mark t 1 with keys := false }

/-- A comma inside brackets. -/
def comma (l : Lexer) : Option Lexer := do
  let l ← l.dropKey
  return { l.mark .comma 1 with keys := true }

/-- A hyphen before an entry. -/
def entry (l : Lexer) : Option Lexer :=
  if !l.inFlow && !l.keys then none
  else do
    let l ← (l.indent l.place.column l.tokens.length .sequenceStart).dropKey
    return { l.mark .entry 1 with keys := true }

/-- A question mark before a key. -/
def key (l : Lexer) : Option Lexer :=
  if !l.inFlow && !l.keys then none
  else do
    let l ← (l.indent l.place.column l.tokens.length .mappingStart).dropKey
    return { l.mark .key 1 with keys := !l.inFlow }

/-- A colon before a value. The key before it becomes one now. -/
def value (l : Lexer) : Option Lexer :=
  match l.possible with
  | some k =>
    let l := { l with tokens := l.tokens.insertIdx k.tokens .key, possible := none }
    let l := l.indent k.place.column k.tokens .mappingStart
    some { l.mark .value 1 with keys := false }
  | none =>
    if !l.inFlow && !l.keys then none
    else
      let l := l.indent l.place.column l.tokens.length .mappingStart
      some { l.mark .value 1 with keys := !l.inFlow }

/-- A token that can be a key or belong to one. -/
def atom (l : Lexer) (read : Lexer → Option (Token × Place)) : Option Lexer := do
  let l ← l.noteKey
  let (t, place) ← read l
  return { l.emit t with place, keys := false }

/-- An anchor or an alias. -/
def named (l : Lexer) (t : List Char → Token) : Option Lexer :=
  l.atom fun l => (anchorName (l.place.skip 1)).map fun r => (t r.1, r.2)

/-- A quoted scalar. -/
def quoted (l : Lexer) (piece : List Char → Option Piece) : Option Lexer :=
  l.atom fun l => (quotedAt piece (l.place.skip 1)).map fun r => (.scalar r.text .quoted, r.place)

/-- A block of lines. -/
def block (l : Lexer) (style : Style) : Option Lexer := do
  let l ← l.dropKey
  let r ← blockAt style l.margin (l.place.skip 1)
  return { l.emit (.scalar r.text style) with place := r.place, keys := true }

/-- A plain scalar. -/
def plain (l : Lexer) : Option Lexer := do
  let l ← l.noteKey
  let r ← plainAt l.inFlow l.margin l.place
  return { l.emit (.scalar r.text .plain) with place := r.place, keys := r.broken }

/-- A character that starts no plain scalar. -/
def isIndicator (c : Char) : Bool := startsAmong "-?:,[]\x7b\x7d#&*!|>'\"%@`" [c]

/-- A plain scalar may start with `c` before `rest`. -/
def startsPlain (flow : Bool) (c : Char) (rest : List Char) : Bool :=
  (!isGap c && !isIndicator c)
    || (c == '-' && !rest.head?.any isBlank)
    || (!flow && (c == '?' || c == ':') && !startsGap rest)

/-- The next token, which starts with `c` before `rest`. -/
def token (l : Lexer) (c : Char) (rest : List Char) : Option Lexer :=
  let flow := l.inFlow
  if l.place.column == 0 && c == '%' then l.directive
  else if l.place.atMarker '-' then l.document .documentStart
  else if l.place.atMarker '.' then l.document .documentEnd
  else if c == '[' then l.opening .openBracket
  else if c == '\x7b' then l.opening .openBrace
  else if c == ']' then l.closing .closeBracket
  else if c == '\x7d' then l.closing .closeBrace
  else if c == ',' then l.comma
  else if c == '-' && startsGap rest then l.entry
  else if c == '?' && (flow || startsGap rest) then l.key
  else if c == ':' && (flow || startsGap rest) then l.value
  else if c == '*' then l.named .alias
  else if c == '&' then l.named .anchor
  else if c == '!' then l.atom fun l => tagAt l.inFlow l.place
  else if c == '|' && !flow then l.block .literal
  else if c == '>' && !flow then l.block .folded
  else if c == '\'' then l.quoted singlePiece
  else if c == '"' then l.quoted doublePiece
  else if startsPlain flow c rest then l.plain
  else none

/-- The lexer at the next token. -/
def advance (l : Lexer) : Option Lexer := do
  let (place, keys) := l.place.skipToToken l.inFlow (l.place.rest.length + 1) l.keys
  let l ← { l with place, keys }.dropStale
  return l.unindent

/-- The tokens of the rest of the text. -/
def run : (fuel : Nat) → Lexer → Option (List Token)
  | 0, _ => none
  | fuel + 1, l =>
    match l.advance with
    | none => none
    | some l =>
      match l.place.rest with
      | [] => (l.closeFrom 0).dropKey.map (·.tokens)
      | c :: rest => (l.token c rest).bind (run fuel)

end Lexer

/-- The tokens of a text. A mark of byte order may stand before it. -/
def Token.scan (s : List Char) : Option (List Token) :=
  let s := match s with
    | '\ufeff' :: rest => rest
    | _ => s
  if s.all isAllowed then Lexer.run (s.length + 1) { place := { rest := s } } else none

end Precis.Yaml
