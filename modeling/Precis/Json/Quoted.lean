import Precis.Json.Basic

/-!
# Strings in Json

`escape` spells a text: quote, backslash and control characters are escaped and all else stands as
it is. `unescape` reads a spelling; besides the escapes that `escape` writes it knows `\/` and any
four hexadecimal digits after `\u`, where two surrogates in a row make one character and a lone
surrogate makes none. `unescape_escape`: what is written reads back.
-/

namespace Precis.Json

open Text

/-- The spelling of one character. -/
def escapeChar (c : Char) : List Char :=
  if c = '"' then ['\\', '"']
  else if c = '\\' then ['\\', '\\']
  else if c = '\n' then ['\\', 'n']
  else if c = '\r' then ['\\', 'r']
  else if c = '\t' then ['\\', 't']
  else if c = '\x08' then ['\\', 'b']
  else if c = '\x0c' then ['\\', 'f']
  else if c.toNat < 0x20 then
    ['\\', 'u', '0', '0', digitChar (c.toNat / 16), digitChar (c.toNat % 16)]
  else [c]

/-- The spelling of a text. -/
def escape (s : List Char) : List Char := s.flatMap escapeChar

/-- The string document of a text. -/
def ofText (s : String) : Json := string (escape s.toList)

/-- The value of four hexadecimal digits. -/
def hexFour (a b c d : Char) : Option Nat := do
  let a ← hexDigit? a
  let b ← hexDigit? b
  let c ← hexDigit? c
  let d ← hexDigit? d
  return ((a * 16 + b) * 16 + c) * 16 + d

/-- The character behind a one-letter escape. -/
def escapedChar? (c : Char) : Option Char :=
  if c = '"' then some '"'
  else if c = '\\' then some '\\'
  else if c = '/' then some '/'
  else if c = 'n' then some '\n'
  else if c = 'r' then some '\r'
  else if c = 't' then some '\t'
  else if c = 'b' then some '\x08'
  else if c = 'f' then some '\x0c'
  else none

/-- Is the first half of a pair of surrogates. -/
def isHighSurrogate (n : Nat) : Bool := 0xD800 ≤ n && n < 0xDC00

/-- Is the second half of a pair of surrogates. -/
def isLowSurrogate (n : Nat) : Bool := 0xDC00 ≤ n && n < 0xE000

/-- The character of a pair of surrogates. -/
def joinSurrogates (high low : Nat) : Char :=
  Char.ofNat (0x10000 + (high - 0xD800) * 0x400 + (low - 0xDC00))

/-- The text of a spelling, if every escape stands for a character. -/
def unescape : List Char → Option (List Char)
  | [] => some []
  | '\\' :: 'u' :: a :: b :: c :: d :: rest =>
    match hexFour a b c d with
    | none => none
    | some n =>
      if isHighSurrogate n then
        match rest with
        | '\\' :: 'u' :: e :: f :: g :: h :: rest =>
          match hexFour e f g h with
          | none => none
          | some m =>
            if isLowSurrogate m then (unescape rest).map (joinSurrogates n m :: ·) else none
        | _ => none
      else if isLowSurrogate n then none
      else (unescape rest).map (Char.ofNat n :: ·)
  | '\\' :: c :: rest =>
    match escapedChar? c with
    | none => none
    | some x => (unescape rest).map (x :: ·)
  | c :: rest => if c = '\\' then none else (unescape rest).map (c :: ·)

/-- The text of a spelling, as a string. -/
def textOf (spelling : List Char) : Option String := (unescape spelling).map String.ofList

theorem unescape_escape (s : List Char) : unescape (escape s) = some s := by
  induction s with
  | nil => rfl
  | cons c rest ih =>
    have step : unescape (escapeChar c ++ escape rest) = (unescape (escape rest)).map (c :: ·) := by
      unfold escapeChar
      split
      · subst_vars; rfl
      split
      · subst_vars; rfl
      split
      · subst_vars; rfl
      split
      · subst_vars; rfl
      split
      · subst_vars; rfl
      split
      · subst_vars; rfl
      split
      · subst_vars; rfl
      split
      · rename_i h
        have code : ∀ n, n < 32 →
            hexFour '0' '0' (digitChar (n / 16)) (digitChar (n % 16)) = some n := by decide
        have high : isHighSurrogate c.toNat = false := by simp [isHighSurrogate]; omega
        have low : isLowSurrogate c.toNat = false := by simp [isLowSurrogate]; omega
        simp [unescape, code c.toNat h, high, low]
      · rename_i h _ _ _ _ _ _
        simp only [List.cons_append, List.nil_append]
        rw [unescape]
        · simp [h]
        all_goals simp_all
    show unescape (escapeChar c ++ escape rest) = some (c :: rest)
    rw [step, ih]
    rfl

end Precis.Json
