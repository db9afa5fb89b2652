import Precis.Json.Quoted

/-!
# Reading Json

The grammar of Json, and nothing besides: no number starts with a plus or a spare zero, no control
character stands bare in a string, no comma trails. A string is only checked for its escapes here;
what it spells is asked by `unescape`, so a lone surrogate fails where a text is wanted and passes
where a value is skipped. Blanks are the four of the grammar: space, tab, line feed and return.

`document` reads a whole text. The depth of nesting is unbounded; the fuel of `value` is a bound on
the number of its steps and the length of the text is always enough.
-/

namespace Precis.Json

open Text

/-- The blanks of the grammar. -/
def isSpace (c : Char) : Bool := c = ' ' || c = '\t' || c = '\n' || c = '\r'

/-- Drops leading blanks. -/
def skipSpace (s : List Char) : List Char := s.dropWhile isSpace

/-- Cuts `s` after its leading digits. -/
def spanDigits (s : List Char) : List Char × List Char :=
  (s.takeWhile Char.isDigit, s.dropWhile Char.isDigit)

/-- The rest of a string after its opening quote: the spelling, and what follows the closing
quote. -/
def stringBody : List Char → Option (List Char × List Char)
  | [] => none
  | '"' :: rest => some ([], rest)
  | '\\' :: 'u' :: a :: b :: c :: d :: rest =>
    match hexFour a b c d with
    | none => none
    | some _ =>
      (stringBody rest).map fun r => ('\\' :: 'u' :: a :: b :: c :: d :: r.1, r.2)
  | '\\' :: c :: rest =>
    match escapedChar? c with
    | none => none
    | some _ => (stringBody rest).map fun r => ('\\' :: c :: r.1, r.2)
  | c :: rest =>
    if c = '\\' || c.toNat < 0x20 then none else (stringBody rest).map fun r => (c :: r.1, r.2)

/-- The whole part of a number: a zero alone, or digits that start with another one. -/
def wholePart (s : List Char) : Option (List Char × List Char) :=
  match spanDigits s with
  | ([], _) => none
  | ('0' :: ds, rest) => some (['0'], ds ++ rest)
  | (ds, rest) => some (ds, rest)

/-- The fraction of a number, if a point follows. -/
def fractionPart : List Char → Option (List Char × List Char)
  | '.' :: s =>
    match spanDigits s with
    | ([], _) => none
    | (ds, rest) => some ('.' :: ds, rest)
  | s => some ([], s)

/-- The sign of an exponent. -/
def exponentSign : List Char → List Char × List Char
  | '+' :: s => (['+'], s)
  | '-' :: s => (['-'], s)
  | s => ([], s)

/-- The exponent of a number, if its letter follows. -/
def exponentPart : List Char → Option (List Char × List Char)
  | c :: s =>
    if c = 'e' || c = 'E' then
      let (sign, s) := exponentSign s
      match spanDigits s with
      | ([], _) => none
      | (ds, rest) => some (c :: sign ++ ds, rest)
    else some ([], c :: s)
  | [] => some ([], [])

/-- A number without its sign. -/
def magnitude (s : List Char) : Option (List Char × List Char) := do
  let (whole, s) ← wholePart s
  let (fraction, s) ← fractionPart s
  let (exponent, s) ← exponentPart s
  return (whole ++ fraction ++ exponent, s)

/-- A number: its spelling, and what follows it. -/
def numberAt : List Char → Option (List Char × List Char)
  | '-' :: s => (magnitude s).map fun r => ('-' :: r.1, r.2)
  | s => magnitude s

/-- What follows `word`, if `s` starts with it. -/
def after? : List Char → List Char → Option (List Char)
  | [], s => some s
  | _ :: _, [] => none
  | c :: word, d :: s => if c = d then after? word s else none

/-- A value that is no array and no object. -/
def scalarAt : List Char → Option (Json × List Char)
  | '"' :: s => (stringBody s).map fun r => (string r.1, r.2)
  | 'n' :: s => (after? "ull".toList s).map fun r => (null, r)
  | 't' :: s => (after? "rue".toList s).map fun r => (bool true, r)
  | 'f' :: s => (after? "alse".toList s).map fun r => (bool false, r)
  | s => (numberAt s).map fun r => (number r.1, r.2)

mutual

/-- A value, after blanks, and what follows it. -/
def value : Nat → List Char → Option (Json × List Char)
  | 0, _ => none
  | fuel + 1, s =>
    match skipSpace s with
    | '[' :: s =>
      match skipSpace s with
      | ']' :: s => some (array [], s)
      | s => (elements fuel s).map fun r => (array r.1, r.2)
    | '{' :: s =>
      match skipSpace s with
      | '}' :: s => some (object [], s)
      | s => (members fuel s).map fun r => (object r.1, r.2)
    | s => scalarAt s

/-- The elements of an array up to its bracket; there is at least one. -/
def elements : Nat → List Char → Option (List Json × List Char)
  | 0, _ => none
  | fuel + 1, s =>
    match value fuel s with
    | none => none
    | some (v, s) =>
      match skipSpace s with
      | ']' :: s => some ([v], s)
      | ',' :: s => (elements fuel s).map fun r => (v :: r.1, r.2)
      | _ => none

/-- The members of an object up to its brace; there is at least one. -/
def members : Nat → List Char → Option (List (List Char × Json) × List Char)
  | 0, _ => none
  | fuel + 1, s =>
    match skipSpace s with
    | '"' :: s =>
      match stringBody s with
      | none => none
      | some (k, s) =>
        match skipSpace s with
        | ':' :: s =>
          match value fuel s with
          | none => none
          | some (v, s) =>
            match skipSpace s with
            | '}' :: s => some ([(k, v)], s)
            | ',' :: s => (members fuel s).map fun r => ((k, v) :: r.1, r.2)
            | _ => none
        | _ => none
    | _ => none

end

/-- The document of a whole text; only blanks may follow it. -/
def document (s : List Char) : Option Json :=
  match value (2 * s.length + 2) s with
  | none => none
  | some (v, rest) => if (skipSpace rest).isEmpty then some v else none

/-- The document of a string. -/
def parse (s : String) : Option Json := document s.toList

end Precis.Json
