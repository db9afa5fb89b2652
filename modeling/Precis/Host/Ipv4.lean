import Precis.Host.Domain
import Precis.Text.Numeral

/-!
# Addresses of four bytes

A domain whose last label is a number is an address: up to four numbers in decimal, octal or
hexadecimal form, of which the last one fills the bytes that are left.
-/

namespace Precis.Host.Ipv4

open Text

/-- The number of digits in a base, all of which belong to it. -/
def digitsIn (base : Nat) (s : List Char) : Option Nat :=
  s.foldlM (fun n c => (hexDigit? c).bind fun d => if d < base then some (n * base + d) else none) 0

/-- A number: hexadecimal after `0x`, octal after a zero, decimal otherwise. -/
def number? : List Char → Option Nat
  | [] => none
  | '0' :: c :: rest =>
    if c = 'x' || c = 'X' then digitsIn 16 rest else digitsIn 8 (c :: rest)
  | s => digitsIn 10 s

/-- The labels of a domain, less an empty one at the end. -/
def partsOf (s : List Char) : List (List Char) :=
  let ls := labels s
  if 1 < ls.length && ls.getLast? = some [] then ls.dropLast else ls

/-- The last label is a number. -/
def endsInNumber (s : List Char) : Bool :=
  match (partsOf s).getLast? with
  | none => false
  | some last => (!last.isEmpty && last.all Char.isDigit) || (number? last).isSome

/-- The value of an address: every number but the last one is a byte. -/
def value? (numbers : List Nat) : Option Nat := do
  let last ← numbers.getLast?
  let bytes := numbers.dropLast
  if 4 < numbers.length || bytes.any (255 < ·) || Nat.pow 256 (4 - bytes.length) ≤ last then none
  else return (bytes.foldl (fun n b => n * 256 + b) 0) * Nat.pow 256 (4 - bytes.length) + last

/-- The text of an address. -/
def write (n : Nat) : List Char :=
  joinLabels
    [decimalDigits (n / Nat.pow 256 3 % 256), decimalDigits (n / Nat.pow 256 2 % 256),
     decimalDigits (n / 256 % 256), decimalDigits (n % 256)]

/-- The usual form of an address. -/
def normal? (s : List Char) : Option (List Char) := do
  let numbers ← (partsOf s).mapM number?
  return write (← value? numbers)

end Precis.Host.Ipv4
