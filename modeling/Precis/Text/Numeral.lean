/-!
# Numerals

Digits of a number and the number of digits: decimal for all that is printed, hexadecimal for
escapes. The two directions are inverse to each other.
-/

namespace Precis.Text

/-- The character of a digit below sixteen, in lower case. -/
def digitChar (d : Nat) : Char :=
  if d < 10 then Char.ofNat (48 + d) else Char.ofNat (87 + d)

/-- The value of a decimal digit. -/
def digitValue (c : Char) : Nat := c.toNat - 48

/-- The decimal digits of `n`, without leading zeros. -/
def decimalDigits (n : Nat) : List Char :=
  if n < 10 then [digitChar n] else decimalDigits (n / 10) ++ [digitChar (n % 10)]
termination_by n
decreasing_by omega

/-- The number written by decimal digits. -/
def ofDigits (s : List Char) : Nat := s.foldl (fun n c => 10 * n + digitValue c) 0

/-- The value of a hexadecimal digit in either case. -/
def hexDigit? (c : Char) : Option Nat :=
  if '0' ≤ c && c ≤ '9' then some (c.toNat - 48)
  else if 'a' ≤ c && c ≤ 'f' then some (c.toNat - 87)
  else if 'A' ≤ c && c ≤ 'F' then some (c.toNat - 55)
  else none

/-- The decimal text of an integer. -/
def signedDigits (n : Int) : List Char :=
  if n < 0 then '-' :: decimalDigits n.natAbs else decimalDigits n.natAbs

/-- The decimal text of `n`. -/
def numeral (n : Nat) : String := String.ofList (decimalDigits n)

/-- Digits of `n`, filled up with zeros on the left to the width `w`. -/
def paddedDigits (w n : Nat) : List Char :=
  let ds := decimalDigits n
  List.replicate (w - ds.length) '0' ++ ds

theorem digitValue_digitChar {d : Nat} (h : d < 10) : digitValue (digitChar d) = d := by
  have all : ∀ d, d < 10 → digitValue (digitChar d) = d := by decide
  exact all d h

theorem isDigit_digitChar {d : Nat} (h : d < 10) : (digitChar d).isDigit = true := by
  have all : ∀ d, d < 10 → (digitChar d).isDigit = true := by decide
  exact all d h

theorem ofDigits_append_singleton (s : List Char) (c : Char) :
    ofDigits (s ++ [c]) = 10 * ofDigits s + digitValue c := by
  simp [ofDigits]

theorem ofDigits_decimalDigits (n : Nat) : ofDigits (decimalDigits n) = n := by
  rw [decimalDigits]
  split
  · rename_i h
    simp [ofDigits, digitValue_digitChar h]
  · rw [ofDigits_append_singleton, ofDigits_decimalDigits (n / 10),
      digitValue_digitChar (by omega)]
    omega
termination_by n
decreasing_by omega

theorem isDigit_of_mem_decimalDigits (n : Nat) : ∀ c ∈ decimalDigits n, c.isDigit = true := by
  rw [decimalDigits]
  split
  · rename_i h
    simpa using isDigit_digitChar h
  · intro c hc
    rw [List.mem_append, List.mem_singleton] at hc
    rcases hc with hc | rfl
    · exact isDigit_of_mem_decimalDigits (n / 10) c hc
    · exact isDigit_digitChar (by omega)
termination_by n
decreasing_by omega

theorem decimalDigits_ne_nil (n : Nat) : decimalDigits n ≠ [] := by
  rw [decimalDigits]
  split <;> simp

end Precis.Text
