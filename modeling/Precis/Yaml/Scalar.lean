import Precis.Text.Numeral
import Precis.Yaml.Place

/-!
# Scalars

The texts of a document are written plain, between quotes, or as blocks of lines. Lines of a plain
or quoted text are folded: one break reads as a space, and of several breaks the first one is
dropped.
-/

namespace Precis.Yaml

open Text

/-- How a scalar is written. -/
inductive Style where
  | plain
  | quoted
  | literal
  | folded
  deriving DecidableEq, Repr

/-! ## Gaps between words -/

/-- What stands between two words: blanks of one line, or breaks. -/
structure Gap where
  blanks : List Char := []
  /-- The first break, and the ones after it. -/
  breaks : Option (List Char × List Char) := none

namespace Gap

/-- Holds a break. -/
def isBroken (g : Gap) : Bool := g.breaks.isSome

/-- What a gap reads as. -/
def text (g : Gap) : List Char :=
  match g.breaks with
  | none => g.blanks
  | some (first, others) =>
    if first == ['\n'] then (if others.isEmpty then [' '] else others) else first ++ others

end Gap

/-- The breaks of blank lines, and the place after them. No tab may stand left of the column
`margin`. -/
def blankLines (margin : Nat) : (fuel : Nat) → Place → Option (List Char × Place)
  | 0, _ => none
  | fuel + 1, p =>
    if ((p.upTo isBlank).take (margin - p.column)).contains '\t' then none
    else
      let q := p.skipAll isBlank
      if q.at? isBreak then
        (blankLines margin fuel q.nextLine).map fun r => (q.lineBreak ++ r.1, r.2)
      else some ([], q)

/-- A gap, and the place after it. -/
def gapAt (margin : Nat) (p : Place) : Option (Gap × Place) :=
  let q := p.skipAll isBlank
  if q.at? isBreak then
    (blankLines margin (p.rest.length + 1) q.nextLine).map fun r =>
      (⟨[], some (q.lineBreak, r.1)⟩, r.2)
  else some (⟨p.upTo isBlank, none⟩, q)

/-! ## Plain scalars -/

/-- A word of a plain scalar. It ends before a gap, before a colon with a gap, and inside brackets
before their punctuation; a colon may not stand before punctuation there. -/
def plainWord (flow : Bool) : List Char → Option (List Char)
  | [] => some []
  | c :: rest =>
    if isGap c then some []
    else if flow && c == ':' && startsAmong ",?[]\x7b\x7d" rest then none
    else if c == ':' && startsGap rest then some []
    else if flow && startsAmong ",[]\x7b\x7d" [c] then some []
    else (plainWord flow rest).map (c :: ·)

/-- A scalar that was read. -/
structure Scanned where
  text : List Char
  place : Place
  /-- A break was passed after the last word. -/
  broken : Bool := false

/-- The rest of a plain scalar after `text` and a gap. -/
def plainFrom (flow : Bool) (margin : Nat) :
    (fuel : Nat) → (text : List Char) → Gap → Place → Option Scanned
  | 0, _, _, _ => none
  | fuel + 1, text, gap, p =>
    if p.atDocument || p.at? (· == '#') then some ⟨text, p, gap.isBroken⟩
    else
      match plainWord flow p.rest with
      | none => none
      | some [] => some ⟨text, p, gap.isBroken⟩
      | some word =>
        let text := text ++ gap.text ++ word
        let q := p.skip word.length
        if !q.at? isGap then some ⟨text, q, false⟩
        else
          match gapAt margin q with
          | none => none
          | some (gap, q) =>
            if !flow && q.column < margin then some ⟨text, q, gap.isBroken⟩
            else plainFrom flow margin fuel text gap q

/-- A plain scalar; outside brackets its lines start at the column `margin` or right of it. -/
def plainAt (flow : Bool) (margin : Nat) (p : Place) : Option Scanned :=
  plainFrom flow margin (p.rest.length + 1) [] {} p

/-! ## Quoted scalars -/

/-- The character of an escape of one letter. -/
def escapeOf? : Char → Option Char
  | '0' => some '\x00'
  | 'a' => some '\x07'
  | 'b' => some '\x08'
  | 't' => some '\t'
  | '\t' => some '\t'
  | 'n' => some '\n'
  | 'v' => some '\x0b'
  | 'f' => some '\x0c'
  | 'r' => some '\r'
  | 'e' => some '\x1b'
  | ' ' => some ' '
  | '"' => some '"'
  | '/' => some '/'
  | '\\' => some '\\'
  | 'N' => some '\x85'
  | '_' => some '\xa0'
  | 'L' => some '\u2028'
  | 'P' => some '\u2029'
  | _ => none

/-- The number of digits after the letter of an escape. -/
def escapeWidth? : Char → Option Nat
  | 'x' => some 2
  | 'u' => some 4
  | 'U' => some 8
  | _ => none

/-- The character with a number in so many hexadecimal digits. -/
def numberedChar? (width : Nat) (s : List Char) : Option Char := do
  let digits := s.take width
  if digits.length < width then none
  else
    let n ← digits.foldlM (fun n c => (hexDigit? c).map (16 * n + ·)) 0
    if 0x10FFFF < n || (0xD800 ≤ n && n ≤ 0xDFFF) then none else return Char.ofNat n

/-- A piece of a quoted scalar. -/
inductive Piece where
  | close
  | char (c : Char) (width : Nat)
  /-- A break that does not count, after a backslash. -/
  | joined

/-- The next piece between single quotes, which are written twice. -/
def singlePiece : List Char → Option Piece
  | '\'' :: '\'' :: _ => some (.char '\'' 2)
  | '\'' :: _ => some .close
  | c :: _ => some (.char c 1)
  | [] => none

/-- The next piece between double quotes. -/
def doublePiece : List Char → Option Piece
  | '"' :: _ => some .close
  | '\\' :: c :: rest =>
    if isBreak c then some .joined
    else
      match escapeOf? c, escapeWidth? c with
      | some d, _ => some (.char d 2)
      | none, some width => (numberedChar? width rest).map (.char · (width + 2))
      | none, none => none
  | '\\' :: [] => none
  | c :: _ => some (.char c 1)
  | [] => none

/-- The rest of a quoted scalar after `text`. -/
def quotedFrom (piece : List Char → Option Piece) :
    (fuel : Nat) → (text : List Char) → Place → Option Scanned
  | 0, _, _ => none
  | fuel + 1, text, p =>
    if p.atDocument then none
    else if p.at? isGap then
      match gapAt 0 p with
      | none => none
      | some (gap, q) => quotedFrom piece fuel (text ++ gap.text) q
    else
      match piece p.rest with
      | none => none
      | some .close => some ⟨text, p.skip 1, false⟩
      | some (.char c width) => quotedFrom piece fuel (text ++ [c]) (p.skip width)
      | some .joined =>
        match blankLines 0 (p.rest.length + 1) (p.skip 1).nextLine with
        | none => none
        | some (breaks, q) => quotedFrom piece fuel (text ++ breaks) q

/-- A scalar after its opening quote. -/
def quotedAt (piece : List Char → Option Piece) (p : Place) : Option Scanned :=
  quotedFrom piece (p.rest.length + 1) [] p

/-! ## Blocks -/

/-- What becomes of the breaks at the end of a block. -/
inductive Chomping where
  | strip
  | clip
  | keep
  deriving DecidableEq

/-- The chomping that a sign asks for. -/
def chomping? : Char → Option Chomping
  | '-' => some .strip
  | '+' => some .keep
  | _ => none

/-- The indentation that a digit asks for. -/
def indentation? (c : Char) : Option Nat :=
  if '1' ≤ c && c ≤ '9' then some (digitValue c) else none

/-- The head of a block after its indicator: a sign and a digit in either order. -/
def blockHead (p : Place) : Chomping × Option Nat × Place :=
  match p.rest with
  | a :: b :: _ =>
    match chomping? a, indentation? a, chomping? b, indentation? b with
    | some c, _, _, some n => (c, some n, p.skip 2)
    | _, some n, some c, _ => (c, some n, p.skip 2)
    | some c, _, _, none => (c, none, p.skip 1)
    | none, some n, none, _ => (.clip, some n, p.skip 1)
    | none, none, _, _ => (.clip, none, p)
  | [a] =>
    match chomping? a, indentation? a with
    | some c, _ => (c, none, p.skip 1)
    | none, n => (.clip, n, p.skip n.toList.length)
  | [] => (.clip, none, p)

/-- The blank lines before a line of a block: their breaks, the widest indentation, and the place
after the indentation of the line. Where the indentation is not known yet, all spaces belong to
it; no tab may stand in it. -/
def blockLines (indent : Option Nat) :
    (fuel : Nat) → (widest : Nat) → Place → Option (List Char × Nat × Place)
  | 0, _, _ => none
  | fuel + 1, widest, p =>
    let spaces := (p.upTo (· == ' ')).length
    let q := p.skip ((indent.map fun n => min spaces (n - p.column)).getD spaces)
    let widest := max widest q.column
    if q.at? (· == '\t') && indent.all (q.column < ·) then none
    else if q.at? isBreak then
      (blockLines indent fuel widest q.nextLine).map fun r => (q.lineBreak ++ r.1, r.2)
    else some ([], widest, q)

/-- The break before a line of a folded block is dropped: neither line starts with a blank. -/
def isFolded (style : Style) (leading : List Char) (wasBlank isBlank : Bool) : Bool :=
  style == .folded && leading == ['\n'] && !wasBlank && !isBlank

/-- The lines of a block from one at its indentation on. `leading` is the break before it and
`trailing` the blank lines after that break. -/
def blockFrom (style : Style) (chomping : Chomping) (indent : Nat) :
    (fuel : Nat) → (text leading trailing : List Char) → (wasBlank : Bool) → Place → Option Scanned
  | 0, _, _, _, _, _ => none
  | fuel + 1, text, leading, trailing, wasBlank, p =>
    if p.column == indent && !p.isEnd then
      let blank := p.at? isBlank
      let joint :=
        if isFolded style leading wasBlank blank then (if trailing.isEmpty then [' '] else [])
        else leading
      let line := p.upTo fun c => !isBreak c
      let q := p.skip line.length
      match blockLines (some indent) (p.rest.length + 1) 0 q.nextLine with
      | none => none
      | some (breaks, _, r) =>
        blockFrom style chomping indent fuel (text ++ joint ++ trailing ++ line) q.lineBreak breaks
          blank r
    else
      let tail := match chomping with
        | .strip => []
        | .clip => leading
        | .keep => leading ++ trailing
      some ⟨text ++ tail, p, true⟩

/-- A block after its indicator, inside blocks that start at the column `margin - 1` or left of
it. -/
def blockAt (style : Style) (margin : Nat) (p : Place) : Option Scanned :=
  let (chomping, step, p) := blockHead p
  let p := p.skipAll isBlank
  let p := if p.at? (· == '#') then p.skipAll fun c => !isBreak c else p
  if !startsGap p.rest then none
  else
    let fuel := p.rest.length + 1
    let known := step.map (margin - 1 + ·)
    match blockLines known fuel 0 p.nextLine with
    | none => none
    | some (breaks, widest, q) =>
      let indent := known.getD (max widest (max margin 1))
      blockFrom style chomping indent fuel [] [] breaks false q

end Precis.Yaml
