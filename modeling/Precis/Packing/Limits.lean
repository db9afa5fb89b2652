import Precis.Document
import Precis.Word
import Precis.Tree

/-!
# Limits of a request

A request may hold so many tokens and so many items, and, where the output is limited too, no more
items than their summaries have room for. Sums of tokens stop at the largest word, so a limit of
that size is never exceeded.
-/

namespace Precis

/-- What a request may hold. -/
structure Limits where
  maxTokens : UInt64 := 100000
  maxItems : UInt64 := 20
  /-- Tokens of the instructions that every request starts with. -/
  baseTokens : UInt64 := 500
  tokensPerSummary : UInt64 := 300
  /-- Tokens of an answer besides its summaries. -/
  answerOverhead : UInt64 := 200
  outputCeiling : UInt64 := 8192
  /-- The part of the ceiling that is used. -/
  outputMargin : Float := 0.9
  /-- Tokens that a cut item keeps free. -/
  truncationBuffer : UInt64 := 1000
  tokensPerChar : Float := 0.25
  /-- The output is limited too. -/
  limitOutput : Bool := false
  deriving Inhabited

namespace Limits

/-- Adding tokens to a request makes it too large. -/
def exceedsInput (l : Limits) (current additional : UInt64) : Bool :=
  l.maxTokens < Word.addSat current additional

/-- A request of so many tokens is too large. -/
def exceedsRequest (l : Limits) (tokens : UInt64) : Bool := l.maxTokens < tokens

/-- A request of so many items has room for no more. -/
def isFull (l : Limits) (size : Nat) : Bool := l.maxItems.toNat ≤ size

/-- The tokens that the summaries of so many items take. -/
def outputEstimate (l : Limits) (size : Nat) : UInt64 :=
  Word.addSat (Word.clamp64 (size * l.tokensPerSummary.toNat)) l.answerOverhead

/-- The tokens that an answer may take. -/
def outputAllowed (l : Limits) : UInt64 := (l.outputCeiling.toFloat * l.outputMargin).toUInt64

/-- The summaries of so many items take too many tokens. -/
def exceedsOutput (l : Limits) (size : Nat) : Bool := l.outputAllowed < l.outputEstimate size

/-- The tokens that a cut item may take. -/
def truncationBudget (l : Limits) : UInt64 := Word.subSat l.maxTokens l.truncationBuffer

/-- The names of the limits in a record. -/
def fieldNames : List String :=
  ["max_tokens_per_request", "max_batch_size", "base_prompt_tokens", "avg_tokens_per_summary",
   "json_overhead_tokens", "provider_max_output_tokens", "output_safety_margin",
   "truncation_buffer_tokens", "tokens_per_char", "enforce_output_limit"]

/-- The limits of a record; what is left out has its default. -/
def read? [Document δ] (v : δ) : Option Limits := do
  let r ← Document.slots fieldNames v
  let d : Limits := {}
  let word := fun name default => (r.get name).withDefault default Document.uint64?
  return {
    maxTokens := ← word "max_tokens_per_request" d.maxTokens
    maxItems := ← word "max_batch_size" d.maxItems
    baseTokens := ← word "base_prompt_tokens" d.baseTokens
    tokensPerSummary := ← word "avg_tokens_per_summary" d.tokensPerSummary
    answerOverhead := ← word "json_overhead_tokens" d.answerOverhead
    outputCeiling := ← word "provider_max_output_tokens" d.outputCeiling
    outputMargin := ← (r.get "output_safety_margin").withDefault d.outputMargin Document.float?
    truncationBuffer := ← word "truncation_buffer_tokens" d.truncationBuffer
    tokensPerChar := ← (r.get "tokens_per_char").withDefault d.tokensPerChar Document.float?
    limitOutput := ← (r.get "enforce_output_limit").withDefault d.limitOutput Document.bool? }

/-- The limits as a record. -/
def toTree (l : Limits) : Tree :=
  .record
    [("max_tokens_per_request", .uint64 l.maxTokens),
     ("max_batch_size", .uint64 l.maxItems),
     ("base_prompt_tokens", .uint64 l.baseTokens),
     ("avg_tokens_per_summary", .uint64 l.tokensPerSummary),
     ("json_overhead_tokens", .uint64 l.answerOverhead),
     ("provider_max_output_tokens", .uint64 l.outputCeiling),
     ("output_safety_margin", .float l.outputMargin),
     ("truncation_buffer_tokens", .uint64 l.truncationBuffer),
     ("tokens_per_char", .float l.tokensPerChar),
     ("enforce_output_limit", .bool l.limitOutput)]

end Limits

end Precis
