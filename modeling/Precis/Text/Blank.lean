/-!
# Blank characters

White space is the Unicode property `White_Space`: 25 characters. Trimming drops them from the
ends of a text and keeps the rest.
-/

namespace Precis.Text

/-- Has the property `White_Space`. -/
def isBlank (c : Char) : Bool :=
  let n := c.toNat
  (9 ≤ n && n ≤ 13) || n = 0x20 || n = 0x85 || n = 0xA0 || n = 0x1680
    || (0x2000 ≤ n && n ≤ 0x200A) || n = 0x2028 || n = 0x2029 || n = 0x202F || n = 0x205F
    || n = 0x3000

/-- Drops leading blanks. -/
def trimStart (s : List Char) : List Char := s.dropWhile isBlank

/-- Drops trailing blanks. -/
def trimEnd (s : List Char) : List Char := (s.reverse.dropWhile isBlank).reverse

/-- Drops blanks at both ends. -/
def trimmed (s : List Char) : List Char := trimEnd (trimStart s)

/-- Drops blanks at both ends of a text. -/
def trim (s : String) : String := String.ofList (trimmed s.toList)

/-- Holds blanks only. -/
def isBlankText (s : String) : Bool := s.toList.all isBlank

end Precis.Text
