import Precis.Text.Numeral

/-!
# Bytes of characters

The UTF-8 encoding, as lists of bytes, and the escapes of bytes by percent signs that addresses use.
-/

namespace Precis.Text

/-- The bytes of a character. -/
def encodeChar (c : Char) : List Nat :=
  let n := c.toNat
  if n < 0x80 then [n]
  else if n < 0x800 then [0xC0 + n / 0x40, 0x80 + n % 0x40]
  else if n < 0x10000 then [0xE0 + n / 0x1000, 0x80 + n / 0x40 % 0x40, 0x80 + n % 0x40]
  else [0xF0 + n / 0x40000, 0x80 + n / 0x1000 % 0x40, 0x80 + n / 0x40 % 0x40, 0x80 + n % 0x40]

/-- The six bits of a byte that continues a character. -/
def continuation (b : Nat) : Option Nat := if 0x80 ≤ b && b < 0xC0 then some (b - 0x80) else none

/-- A character from its number, if it is one and needs at least so many bits. -/
def charFrom (least n : Nat) : Option Char :=
  if least ≤ n && n < 0x110000 && !(0xD800 ≤ n && n < 0xE000) then some (Char.ofNat n) else none

/-- The characters of bytes, or `none` when they are not well formed. -/
def decodeBytes : List Nat → Option (List Char)
  | [] => some []
  | a :: rest =>
    if a < 0x80 then (decodeBytes rest).map (Char.ofNat a :: ·)
    else if 0xC0 ≤ a && a < 0xE0 then
      match rest with
      | b :: rest => do
        let c ← charFrom 0x80 ((a - 0xC0) * 0x40 + (← continuation b))
        return c :: (← decodeBytes rest)
      | _ => none
    else if 0xE0 ≤ a && a < 0xF0 then
      match rest with
      | b :: d :: rest => do
        let n := (a - 0xE0) * 0x1000 + (← continuation b) * 0x40 + (← continuation d)
        return (← charFrom 0x800 n) :: (← decodeBytes rest)
      | _ => none
    else if 0xF0 ≤ a && a < 0xF8 then
      match rest with
      | b :: d :: e :: rest => do
        let n := (a - 0xF0) * 0x40000 + (← continuation b) * 0x1000 + (← continuation d) * 0x40
          + (← continuation e)
        return (← charFrom 0x10000 n) :: (← decodeBytes rest)
      | _ => none
    else none

/-- The bytes of a text in which a percent sign and two hexadecimal digits stand for a byte. -/
def percentBytes : List Char → List Nat
  | [] => []
  | '%' :: a :: b :: rest =>
    match hexDigit? a, hexDigit? b with
    | some x, some y => (x * 16 + y) :: percentBytes rest
    | _, _ => 0x25 :: percentBytes (a :: b :: rest)
  | c :: rest => encodeChar c ++ percentBytes rest

/-- The text with its escaped bytes decoded, or `none` when they make no characters. -/
def percentDecode (s : List Char) : Option (List Char) :=
  if s.contains '%' then decodeBytes (percentBytes s) else some s

/-- The hexadecimal digit in capitals. -/
def upperHexDigit (d : Nat) : Char := (digitChar d).toUpper

/-- An escaped byte. -/
def escapeByte (b : Nat) : List Char := ['%', upperHexDigit (b / 16), upperHexDigit (b % 16)]

/-- The text with control characters and all characters beyond ASCII escaped. -/
def percentEncode (s : List Char) : List Char :=
  s.flatMap fun c =>
    if c.toNat < 0x20 || 0x7F ≤ c.toNat then (encodeChar c).flatMap escapeByte else [c]

end Precis.Text
