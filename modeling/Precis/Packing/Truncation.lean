import Precis.Packing.Tokens

/-!
# Truncation

An item that is too long loses the end of its content. The budget in tokens gives the number of
characters that stay; a marker follows them.
-/

namespace Precis

/-- Cuts items to a number of tokens. -/
structure Truncator where
  tokensPerChar : Float

namespace Truncator

/-- What stands for the part that was cut. -/
def marker : String := "... [truncated]"

/-- So many tokens a character; a quarter, when the number makes no sense. -/
def ofTokensPerChar (x : Float) : Truncator := if isPositive x then ⟨x⟩ else ⟨0.25⟩

/-- A quarter of a token a character. -/
def standard : Truncator := ofTokensPerChar 0.25

/-- The number of characters that a budget has room for, rounded down. -/
def maxChars (t : Truncator) (budget : UInt64) : UInt64 :=
  (budget.toFloat / t.tokensPerChar).toUInt64

/-- The first `n` characters, and the marker after them. -/
def cut (n : Nat) (content : String) : String :=
  String.ofList (content.toList.take n ++ marker.toList)

/-- The item with at most `n` characters of content left. -/
def keep (n : Nat) (item : Item) : Item :=
  if item.content.length ≤ n then item
  else { item with content := cut n item.content, truncated := true }

/-- The item cut to a budget. -/
def truncate (t : Truncator) (item : Item) (budget : UInt64) : Item :=
  keep (t.maxChars budget).toNat item

end Truncator

end Precis
