import Precis.Packing.Limits
import Precis.Packing.Truncation

/-!
# Packing

Items are packed into batches in their order, each batch as full as the limits allow. An item that
fits no request is cut and gets a batch of its own. Packing has no result when a sum of tokens is
too large for a word.
-/

namespace Precis

/-- Items that are sent together. -/
structure Batch where
  items : List Item
  estimatedTokens : UInt64
  /-- Holds an item that was too long. -/
  truncated : Bool
  deriving DecidableEq, Inhabited

namespace Batch

/-- The ids of the items. -/
def ids (b : Batch) : List Int64 := b.items.map (·.id)

end Batch

/-- How items are packed: the limits, the cutting of long items, and the count of tokens. -/
structure Packer where
  limits : Limits
  truncator : Truncator
  counter : TokenCounter

/-- The item with its count of tokens noted. -/
def Item.noted (item : Item) (tokens : UInt64) : Item := { item with tokenEstimate := some tokens }

namespace Packer

/-- Counts tokens with `counter`. -/
def withCounter (limits : Limits) (counter : TokenCounter) : Packer :=
  ⟨limits, Truncator.ofTokensPerChar limits.tokensPerChar, counter⟩

/-- Counts tokens with the estimator of the limits. -/
def ofLimits (limits : Limits) : Packer :=
  withCounter limits (Estimator.ofTokensPerChar limits.tokensPerChar).counter

/-- A batch that is being filled. -/
structure Filling where
  items : List Item
  tokens : UInt64
  deriving DecidableEq

/-- The batch that holds nothing yet. -/
def fresh (p : Packer) : Filling := ⟨[], p.limits.baseTokens⟩

/-- One more item, unless the tokens become too many. -/
def Filling.push (f : Filling) (item : Item) (tokens : UInt64) : Option Filling :=
  (Word.add? f.tokens tokens).map fun total => ⟨f.items ++ [item], total⟩

/-- The batch that was filled, if it holds anything. -/
def Filling.close (f : Filling) : List Batch :=
  if f.items.isEmpty then [] else [⟨f.items, f.tokens, false⟩]

/-- An item of so many tokens fits no request. -/
def isOversized (p : Packer) (tokens : UInt64) : Bool :=
  p.limits.exceedsRequest (Word.addSat p.limits.baseTokens tokens)

/-- There is no room for another item of so many tokens. -/
def hasNoRoom (p : Packer) (f : Filling) (tokens : UInt64) : Bool :=
  p.limits.exceedsInput f.tokens tokens
    || p.limits.isFull f.items.length
    || (p.limits.limitOutput && p.limits.exceedsOutput (f.items.length + 1))

/-- The tokens that the content of an oversized item may take. -/
def contentBudget (p : Packer) (item : Item) : UInt64 :=
  Word.subSat p.limits.truncationBudget (p.counter.count item.title)

/-- What is left of an oversized item. -/
def cutDown (p : Packer) (item : Item) : Item :=
  p.truncator.truncate item (p.contentBudget item)

/-- The batch of an oversized item, cut. -/
def truncatedBatch (p : Packer) (item : Item) : Option Batch := do
  let cut := p.cutDown item
  let tokens ← p.counter.ofItem cut
  let total ← Word.add? p.limits.baseTokens tokens
  return ⟨[cut.noted tokens], total, true⟩

/-- Packs the items that follow a batch that is being filled. -/
def packFrom (p : Packer) (f : Filling) : List Item → Option (List Batch)
  | [] => some f.close
  | item :: rest => do
    let tokens ← p.counter.ofItem item
    let item := item.noted tokens
    if p.isOversized tokens then
      let batch ← p.truncatedBatch item
      let batches ← p.packFrom p.fresh rest
      return f.close ++ batch :: batches
    else if p.hasNoRoom f tokens then
      let begun ← p.fresh.push item tokens
      let batches ← p.packFrom begun rest
      return f.close ++ batches
    else
      let filled ← f.push item tokens
      p.packFrom filled rest

/-- Packs items into batches, unless a sum of tokens is too large. -/
def pack (p : Packer) (items : List Item) : Option (List Batch) := p.packFrom p.fresh items

end Packer

end Precis
