import Precis.Text.Numeral

/-!
# Spans of time

A span is a natural number of nanoseconds; its seconds are counted in a word. Its text uses the
largest unit among seconds, milliseconds, microseconds and nanoseconds that it fills at least once,
with exact decimals.
-/

namespace Precis.Time

namespace Span

/-- The span of milliseconds. -/
def ofMillis (n : Nat) : Nat := n * 1000000

/-- The span of seconds. -/
def ofSeconds (n : Nat) : Nat := n * 1000000000

/-- The longest span. -/
def longest : Nat := 18446744073709551615999999999

/-- Whole milliseconds, rounded down. -/
def millis (s : Nat) : Nat := s / 1000000

/-- A number of units with `width` decimals, less trailing zeros. -/
def decimal (width value : Nat) : List Char :=
  let unit := Nat.pow 10 width
  let fraction := Text.paddedDigits width (value % unit)
  let shown := (fraction.reverse.dropWhile (· = '0')).reverse
  Text.decimalDigits (value / unit) ++ (if value % unit = 0 then [] else '.' :: shown)

/-- The text of a span. -/
def toText (s : Nat) : String :=
  let text :=
    if 1000000000 ≤ s then decimal 9 s ++ ['s']
    else if 1000000 ≤ s then decimal 6 s ++ ['m', 's']
    else if 1000 ≤ s then decimal 3 s ++ ['\u00b5', 's']
    else Text.decimalDigits s ++ ['n', 's']
  String.ofList text

end Span

end Precis.Time
