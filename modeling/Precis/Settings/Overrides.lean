import Precis.Decimal.Numeral
import Precis.Settings.Basic

/-!
# Overrides

Some settings can be replaced by named texts from outside. A text that does not read as a value of
its setting is passed over.
-/

namespace Precis.Settings

open Text

/-- A natural number below `bound`, in digits with a plus or without. -/
def natBelow? (bound : Nat) (s : List Char) : Option Nat :=
  let digits := match s with
    | '+' :: rest => rest
    | _ => s
  if digits.isEmpty || !digits.all Char.isDigit then none
  else
    let n := ofDigits digits
    if n < bound then some n else none

/-- A 64-bit word. -/
def word? (s : List Char) : Option UInt64 := (natBelow? (Nat.pow 2 64) s).map UInt64.ofNat

/-- A 32-bit word. -/
def shortWord? (s : List Char) : Option UInt32 := (natBelow? (Nat.pow 2 32) s).map UInt32.ofNat

/-- A truth value. -/
def truth? (s : List Char) : Option Bool :=
  if s = "true".toList then some true else if s = "false".toList then some false else none

/-- The name of a setting, and how a text replaces it. -/
structure Override where
  name : String
  replace? : List Char → Settings → Option Settings

/-- The settings that can be replaced. -/
def overrides : List Override :=
  [⟨"AI_BATCH_MAX_TOKENS_PER_REQUEST", fun t s => (word? t).map fun v =>
      { s with batch := { s.batch with maxTokens := v } }⟩,
   ⟨"AI_BATCH_MAX_BATCH_SIZE", fun t s => (word? t).map fun v =>
      { s with batch := { s.batch with maxItems := v } }⟩,
   ⟨"AI_BATCH_BASE_PROMPT_TOKENS", fun t s => (word? t).map fun v =>
      { s with batch := { s.batch with baseTokens := v } }⟩,
   ⟨"AI_BATCH_TOKENS_PER_CHAR", fun t s => (Decimal.floatOfNumeral? t).map fun v =>
      { s with batch := { s.batch with tokensPerChar := v } }⟩,
   ⟨"AI_BATCH_CONCURRENCY", fun t s => (word? t).map fun v =>
      { s with dispatch := { s.dispatch with concurrency := v } }⟩,
   ⟨"AI_BATCH_TIMEOUT_MS", fun t s => (word? t).map fun v =>
      { s with dispatch := { s.dispatch with timeout := v } }⟩,
   ⟨"AI_BATCH_MAX_RETRY_ATTEMPTS", fun t s => (shortWord? t).map fun v =>
      { s with dispatch := { s.dispatch with maxAttempts := v } }⟩,
   ⟨"AI_BATCH_PAGE_SIZE", fun t s => (word? t).map fun v =>
      { s with reader := { s.reader with pageSize := v } }⟩,
   ⟨"AI_BATCH_JITTER_ENABLED", fun t s => (truth? t).map fun v =>
      { s with jitter := { s.jitter with enabled := v } }⟩,
   ⟨"AI_BATCH_MAX_COUNT", fun t s => (word? t).map fun v =>
      { s with reader := { s.reader with maxCount := some v } }⟩]

/-- The settings after one override. -/
def applyOverride (lookup : String → Option String) (s : Settings) (o : Override) : Settings :=
  match lookup o.name with
  | some text => (o.replace? (trimmed text.toList) s).getD s
  | none => s

/-- The settings after the overrides that `lookup` knows. -/
def overridden (lookup : String → Option String) (s : Settings) : Settings :=
  overrides.foldl (applyOverride lookup) s

end Precis.Settings
