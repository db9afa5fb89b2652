import Mathlib.Data.List.Forall2
import Precis.Proofs.Packing.Segments

/-!
# What packing promises of its batches

`pack_batches`: the batches are those of consecutive segments that make up the input, and each batch
`Holds` its segment. A batch that is marked as truncated is one oversized item, cut; every other one
carries its items as they came, with their counts noted, and keeps within the limits.
-/

namespace Precis.Packer

variable {p : Packer}

/-- What a batch keeps of the segment it is made of. -/
structure Holds (p : Packer) (segment : List Item) (b : Batch) : Prop where
  counts : ∀ item ∈ segment, p.counter.ofItem item = some (p.weight item)
  nonempty : b.items ≠ []
  size_le : b.items.length ≤ max 1 p.limits.maxItems.toNat
  headings : b.items.map Item.heading = segment.map Item.heading
  truncated_iff : b.truncated = true ↔ ∃ item, segment = [item] ∧ p.Oversized item
  small : b.truncated = false → ∀ item ∈ segment, ¬ p.Oversized item
  items_eq : b.truncated = false → b.items = segment.map fun item => item.noted (p.weight item)
  /-- The sum is that of natural numbers: no word wraps. -/
  tokens_eq : b.truncated = false → b.estimatedTokens.toNat =
    p.limits.baseTokens.toNat + (segment.map fun item => (p.weight item).toNat).sum
  tokens_le : b.truncated = false → b.estimatedTokens ≤ p.limits.maxTokens
  output_le : p.limits.limitOutput = true → b.truncated = false → 2 ≤ b.items.length →
    p.limits.outputEstimate b.items.length ≤ p.limits.outputAllowed

/-- The batch of one oversized item. -/
theorem Makes.holds_of_oversized {item : Item} {b : Batch} (h : p.Makes [item] b)
    (hbig : p.Oversized item) : p.Holds [item] b := by
  have hbatch := h.batch
  rw [batchOf, if_pos ((isOversized_eq_true_iff item).2 hbig)] at hbatch
  obtain ⟨tokens, -, hitems, htruncated, -⟩ := truncatedBatch_eq_some hbatch
  refine
    { counts := h.counts, nonempty := ?_, size_le := ?_, headings := h.headings,
      truncated_iff := ?_, small := ?_, items_eq := ?_, tokens_eq := ?_, tokens_le := ?_,
      output_le := ?_ }
  · simp [hitems]
  · simp [hitems]
  · exact ⟨fun _ => ⟨item, rfl, hbig⟩, fun _ => htruncated⟩
  -- the rest is about batches that are sent as they are
  all_goals simp [htruncated]

/-- The batch of a segment that is sent as it is: its total is at most the limit, so the word that
holds it is the total itself. -/
theorem holds_wholeBatch (hmax : p.limits.maxTokens.toNat < Word.size64 - 1) {segment : List Item}
    (hcounts : ∀ item ∈ segment, p.counter.ofItem item = some (p.weight item))
    (hne : segment ≠ []) (hload : p.load segment ≤ p.limits.maxTokens.toNat)
    (hallowed : p.Allowed segment) : p.Holds segment (p.wholeBatch segment) := by
  have hsmall : ∀ item ∈ segment, ¬ p.Oversized item := by
    intro item hitem hbig
    have h := small_of_load_le hmax hload item hitem
    rw [(isOversized_eq_true_iff item).2 hbig] at h
    cases h
  have htokens : (p.wholeBatch segment).estimatedTokens.toNat = p.load segment := by
    have hlt : p.load segment < UInt64.size := by
      simp only [Word.size64] at hmax
      simp only [UInt64.size]
      omega
    exact UInt64.toNat_ofNat_of_lt' hlt
  have hlength : (p.wholeBatch segment).items.length = segment.length := by simp [wholeBatch]
  refine
    { counts := hcounts, nonempty := ?_, size_le := ?_, headings := ?_, truncated_iff := ?_,
      small := fun _ => hsmall, items_eq := fun _ => rfl, tokens_eq := fun _ => htokens,
      tokens_le := ?_, output_le := ?_ }
  · simpa [wholeBatch] using hne
  · rw [hlength]
    rcases hallowed with hone | hfits
    · omega
    · have hle := hfits.length_le
      omega
  · exact headings_wholeBatch segment
  · constructor
    · intro hb
      cases hb
    · rintro ⟨item, rfl, hbig⟩
      exact absurd hbig (hsmall item (by simp))
  · intro _
    rw [UInt64.le_iff_toNat_le, htokens]
    exact hload
  · intro hout _ htwo
    rw [hlength] at htwo ⊢
    rcases hallowed with hone | hfits
    · omega
    · have h := hfits.output hout
      rw [Limits.exceedsOutput, decide_eq_false_iff_not, UInt64.not_lt] at h
      exact h

theorem Makes.holds (hmax : p.limits.maxTokens.toNat < Word.size64 - 1) {segment : List Item}
    {b : Batch} (h : p.Makes segment b) (hne : segment ≠ []) (hallowed : p.Allowed segment) :
    p.Holds segment b := by
  by_cases hload : p.load segment ≤ p.limits.maxTokens.toNat
  · have hbatch := h.batch
    rw [batchOf_of_small (small_of_load_le hmax hload)] at hbatch
    cases hbatch
    exact holds_wholeBatch hmax h.counts hne hload hallowed
  · -- over the limit only one item alone is allowed, and it is oversized
    rcases hallowed with hone | hfits
    · obtain ⟨item, rfl⟩ := List.length_eq_one_iff.1 hone
      have hbig : p.isOversized (p.weight item) = true := (isOversized_iff hmax item).2 (by omega)
      exact h.holds_of_oversized ((isOversized_eq_true_iff item).1 hbig)
    · exact absurd hfits.load_le hload

theorem holds_cut (hmax : p.limits.maxTokens.toNat < Word.size64 - 1) {items : List Item}
    {batches : List Batch} (h : p.pack items = some batches) :
    List.Forall₂ p.Holds (p.cut items) batches := by
  have hsegments : ∀ segment ∈ p.cut items, segment ≠ [] ∧ p.Allowed segment :=
    fun _ => allowed_of_mem_cut hmax
  refine ((List.forall₂_and_left _ _).2 ⟨hsegments, makes_cut h⟩).imp ?_
  rintro segment b ⟨⟨hne, hallowed⟩, hmakes⟩
  exact hmakes.holds hmax hne hallowed

/-- Packing gives batches unless a sum of tokens that an item brings with it is too large for a
word. They keep the items in their order, and each batch holds a segment of them. -/
theorem pack_batches (p : Packer) (hmax : p.limits.maxTokens.toNat < Word.size64 - 1)
    (items : List Item) :
    ((p.pack items).isSome = true ↔ ∀ item ∈ items, p.Summable item) ∧
      ∀ batches, p.pack items = some batches →
        (batches.flatMap (·.items)).map Item.heading = items.map Item.heading ∧
        ∃ segments : List (List Item),
          segments.flatten = items ∧ List.Forall₂ p.Holds segments batches := by
  refine ⟨isSome_pack hmax items, ?_⟩
  intro batches h
  exact ⟨headings_pack h, p.cut items, flatten_cut p items, holds_cut hmax h⟩

/-- Requests of at most ten characters, two of them instructions, and at most two items. -/
def tight : Packer :=
  withCounter { maxTokens := 10, maxItems := 2, baseTokens := 2, truncationBuffer := 1 }
    TokenCounter.characters

/-- A post of `n` characters. -/
def post (id : Int64) (n : Nat) : Item :=
  { id, title := "", content := String.ofList (List.replicate n 'x'), timestamp := .epoch }

/-- Posts that fit together or not, one of them oversized. -/
def posts : List Item := [post 1 4, post 2 9, post 3 3, post 4 5, post 5 1]

theorem pack_batches_tight :
    tight.limits.maxTokens.toNat < Word.size64 - 1 ∧
      ∃ batches, tight.pack posts = some batches ∧
        (batches.flatMap (·.items)).map Item.heading = posts.map Item.heading ∧
        ∃ segments : List (List Item),
          segments.flatten = posts ∧ List.Forall₂ tight.Holds segments batches := by
  have hsome : (tight.pack posts).isSome = true := by decide +kernel
  obtain ⟨batches, hbatches⟩ := Option.isSome_iff_exists.1 hsome
  exact ⟨by decide, batches, hbatches, (pack_batches tight (by decide) posts).2 batches hbatches⟩

example : (tight.cut posts).map (·.map (·.id)) = [[1], [2], [3, 4], [5]] := by decide +kernel

/-- Limits that are low, but for instructions of as many tokens as a word can count. -/
def endless : Limits :=
  { maxTokens := 100, baseTokens := 18446744073709551615, truncationBuffer := 10 }

/-- One post of four characters under such limits has no batches, though the limit of tokens is far
below the largest word: the total of the cut item with the instructions is too large. -/
theorem pack_endless :
    (ofLimits endless).limits.maxTokens.toNat < Word.size64 - 1 ∧
      (ofLimits endless).pack [post 1 4] = none := by
  decide +kernel

end Precis.Packer
