import Precis.Text.Blank
import Precis.Text.Numeral
import Precis.Time.Timestamp

/-!
# Written timestamps

A timestamp is written as RFC 3339 asks, in universal time with `Z`: as many fraction digits of 0,
3, 6 and 9 as are needed, years outside 0 to 9999 with a sign, a leap second as second 60.

The reader is laxer. Blanks may stand before numbers and separators, the numbers after the year may
have one digit, a signed year any number, digits of the fraction beyond the ninth are dropped, and
the zone is `UTC`, `Z`, or hours and minutes with colons or blanks between them.
-/

namespace Precis.Time

open Text

namespace Timestamp

/-! ## Writing -/

/-- The year: four digits, and outside 0 to 9999 a sign with at least four. -/
def writeYear (y : Int) : List Char :=
  if 0 ≤ y && y ≤ 9999 then paddedDigits 4 y.toNat
  else (if y < 0 then '-' else '+') :: paddedDigits 4 y.natAbs

/-- The fraction of a second, with the fewest of 0, 3, 6 and 9 digits. -/
def writeFraction (nanos : Nat) : List Char :=
  if nanos = 0 then []
  else if nanos % 1000000 = 0 then '.' :: paddedDigits 3 (nanos / 1000000)
  else if nanos % 1000 = 0 then '.' :: paddedDigits 6 (nanos / 1000)
  else '.' :: paddedDigits 9 nanos

/-- The text of a timestamp. -/
def write (t : Timestamp) : List Char :=
  let date := Date.ofDays (t.seconds / 86400)
  let second := (t.seconds % 86400).toNat
  let leap := t.nanos / nanosPerSecond
  writeYear date.year ++ '-' :: paddedDigits 2 date.month ++ '-' :: paddedDigits 2 date.day
    ++ 'T' :: paddedDigits 2 (second / 3600) ++ ':' :: paddedDigits 2 (second / 60 % 60)
    ++ ':' :: paddedDigits 2 (second % 60 + leap) ++ writeFraction (t.nanos % nanosPerSecond)
    ++ ['Z']

/-- The text of a timestamp, as a string. -/
def toText (t : Timestamp) : String := String.ofList t.write

/-! ## Reading -/

/-- Cuts `s` after its leading digits, at most `n` of them. -/
def spanDigitsUpTo (n : Nat) (s : List Char) : List Char × List Char :=
  let ds := (s.take n).takeWhile Char.isDigit
  (ds, s.drop ds.length)

/-- A number of one to `n` digits. -/
def digitsAt (n : Nat) (s : List Char) : Option (Nat × List Char) :=
  match spanDigitsUpTo n s with
  | ([], _) => none
  | (ds, rest) => if ofDigits ds < Nat.pow 2 63 then some (ofDigits ds, rest) else none

/-- A number of one or two digits between `low` and `high`, after blanks. -/
def numberAt (low high : Nat) (s : List Char) : Option (Nat × List Char) :=
  match digitsAt 2 (trimStart s) with
  | some (n, rest) => if low ≤ n && n ≤ high then some (n, rest) else none
  | none => none

/-- The character `c`, after blanks. -/
def separatorAt (c : Char) (s : List Char) : Option (List Char) :=
  match trimStart s with
  | d :: rest => if d = c then some rest else none
  | [] => none

/-- The year, after blanks: up to four digits, or any number of digits after a sign. -/
def yearAt (s : List Char) : Option (Int × List Char) :=
  match trimStart s with
  | '-' :: s => (digitsAt s.length s).map fun r => (-(r.1 : Int), r.2)
  | '+' :: s => (digitsAt s.length s).map fun r => ((r.1 : Int), r.2)
  | s => (digitsAt 4 s).map fun r => ((r.1 : Int), r.2)

/-- The fraction of a second in nanoseconds, if a point follows. -/
def fractionAt : List Char → Option (Nat × List Char)
  | '.' :: s =>
    match spanDigitsUpTo 9 s with
    | ([], _) => none
    | (ds, rest) => some (ofDigits ds * Nat.pow 10 (9 - ds.length), rest.dropWhile Char.isDigit)
  | s => some (0, s)

/-- Two digits. -/
def twoDigitsAt : List Char → Option (Nat × List Char)
  | a :: b :: rest =>
    if a.isDigit && b.isDigit then some (ofDigits [a, b], rest) else none
  | _ => none

/-- Hours and minutes of a zone, in seconds. -/
def zoneLengthAt (s : List Char) : Option (Nat × List Char) := do
  let (hours, s) ← twoDigitsAt s
  let (minutes, s) ← twoDigitsAt (s.dropWhile fun c => c = ':' || isBlank c)
  if minutes < 60 && hours < 24 then return (hours * 3600 + minutes * 60, s) else none

/-- The seconds by which a zone is ahead of universal time. -/
def zoneAt : List Char → Option (Int × List Char)
  | s@(c :: rest) =>
    if (s.take 3).map Char.toLower = ['u', 't', 'c'] then some (0, s.drop 3)
    else if c = 'Z' || c = 'z' then some (0, rest)
    else if c = '+' then (zoneLengthAt rest).map fun r => ((r.1 : Int), r.2)
    else if c = '-' || c = '\u2212' then (zoneLengthAt rest).map fun r => (-(r.1 : Int), r.2)
    else none
  | [] => none

/-- The date of a timestamp. -/
def dateAt (s : List Char) : Option (Date × List Char) := do
  let (year, s) ← yearAt s
  let s ← separatorAt '-' s
  let (month, s) ← numberAt 1 12 s
  let s ← separatorAt '-' s
  let (day, s) ← numberAt 1 31 s
  let date : Date := ⟨year, month, day⟩
  if date.exists? then return (date, s) else none

/-- The time of day, as a second of the day and its nanoseconds. -/
def timeAt (s : List Char) : Option ((Nat × Nat) × List Char) := do
  let (hour, s) ← numberAt 0 23 s
  let s ← separatorAt ':' s
  let (minute, s) ← numberAt 0 59 s
  let s ← separatorAt ':' s
  let (second, s) ← numberAt 0 60 s
  let (nanos, s) ← fractionAt s
  let start := hour * 3600 + minute * 60
  if second = 60 then return ((start + 59, nanos + nanosPerSecond), s)
  else return ((start + second, nanos), s)

/-- The letter or blank between date and time. -/
def middleAt : List Char → Option (List Char)
  | c :: s => if c = 'T' || c = 't' || c = ' ' then some s else none
  | [] => none

/-- The timestamp of a text. -/
def read? (s : List Char) : Option Timestamp := do
  let (date, s) ← dateAt s
  let s ← middleAt s
  let ((second, nanos), s) ← timeAt s
  let (ahead, s) ← zoneAt (trimStart s)
  if (trimStart s).isEmpty then
    ofParts? (date.toDays * 86400 + second - ahead) nanos
  else none

/-- The timestamp of a string. -/
def ofText? (s : String) : Option Timestamp := read? s.toList

end Timestamp

end Precis.Time
