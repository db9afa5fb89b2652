import Precis.Proofs.Packing.Optimality

/-!
# Looser limits

More tokens or more items in a request never cost a batch, but where a sum of tokens is too large
for a word (`length_pack_loosened_le`, `loosened_burdened`). The borders of the batches under the
two limits need not line up, and an item that was oversized may fit after all. So the batches are
not compared one by one: each segment of the stricter cut may be a request under the looser limits
too, and the looser cut is no longer than any cut into such segments (`length_cut_flatten_le`).
-/

namespace Precis.Packer

variable {p : Packer} {maxTokens maxItems : UInt64}

/-- The packer with other limits on the tokens and on the items of a request. -/
def loosened (p : Packer) (maxTokens maxItems : UInt64) : Packer :=
  { p with limits := { p.limits with maxTokens, maxItems } }

/-- What fits still fits when the limits are looser: the tokens that it takes are the same. -/
theorem Fits.loosened {items : List Item} (h : p.Fits items)
    (htokens : p.limits.maxTokens ≤ maxTokens) (hitems : p.limits.maxItems ≤ maxItems) :
    (p.loosened maxTokens maxItems).Fits items where
  load_le := Nat.le_trans h.load_le (UInt64.le_iff_toNat_le.1 htokens)
  length_le := Nat.le_trans h.length_le (UInt64.le_iff_toNat_le.1 hitems)
  output := h.output

theorem Allowed.loosened {items : List Item} (h : p.Allowed items)
    (htokens : p.limits.maxTokens ≤ maxTokens) (hitems : p.limits.maxItems ≤ maxItems) :
    (p.loosened maxTokens maxItems).Allowed items := by
  rcases h with hone | hfits
  · exact Or.inl hone
  · exact Or.inr (hfits.loosened htokens hitems)

/-- Under limits that allow more tokens and more items, and are otherwise the same, there are at
most as many batches, when under both of them no sum of tokens is too large for a word. That is so
under the looser limits just if all items are `Summable` there; an item that was oversized may then
fit, and need not be cut. -/
theorem length_pack_loosened_le (p : Packer) (maxTokens maxItems : UInt64)
    (htokens : p.limits.maxTokens ≤ maxTokens) (hitems : p.limits.maxItems ≤ maxItems)
    (hmax : maxTokens.toNat < Word.size64 - 1) (items : List Item) :
    (((p.loosened maxTokens maxItems).pack items).isSome = true ↔
        ∀ item ∈ items, (p.loosened maxTokens maxItems).Summable item) ∧
      ∀ batches batches', p.pack items = some batches →
        (p.loosened maxTokens maxItems).pack items = some batches' →
          batches'.length ≤ batches.length := by
  refine ⟨isSome_pack hmax items, ?_⟩
  intro batches batches' hbatches hbatches'
  have hstrict : p.limits.maxTokens.toNat < Word.size64 - 1 :=
    Nat.lt_of_le_of_lt (UInt64.le_iff_toNat_le.1 htokens) hmax
  -- the stricter cut is one way of cutting under the looser limits
  have hallowed : ∀ segment ∈ p.cut items, (p.loosened maxTokens maxItems).Allowed segment := by
    intro segment hs
    exact (allowed_of_mem_cut hstrict hs).2.loosened htokens hitems
  have hle := length_cut_flatten_le (p := p.loosened maxTokens maxItems) hmax hallowed
  rw [flatten_cut] at hle
  rw [length_pack hbatches, length_pack hbatches']
  exact hle

/-- With room for twelve tokens and three items the second post is no longer oversized. -/
theorem length_pack_loosened_le_tight :
    tight.limits.maxTokens ≤ 12 ∧ tight.limits.maxItems ≤ 3 ∧
      (12 : UInt64).toNat < Word.size64 - 1 ∧
      ∃ batches batches', tight.pack posts = some batches ∧
        (tight.loosened 12 3).pack posts = some batches' ∧ batches'.length ≤ batches.length := by
  have htokens : tight.limits.maxTokens ≤ 12 := by decide
  have hitems : tight.limits.maxItems ≤ 3 := by decide
  have hmax : (12 : UInt64).toNat < Word.size64 - 1 := by decide
  have hsome : (tight.pack posts).isSome = true := by decide +kernel
  have hsome' : ((tight.loosened 12 3).pack posts).isSome = true := by decide +kernel
  obtain ⟨batches, hbatches⟩ := Option.isSome_iff_exists.1 hsome
  obtain ⟨batches', hbatches'⟩ := Option.isSome_iff_exists.1 hsome'
  exact ⟨htokens, hitems, hmax, batches, batches', hbatches, hbatches',
    (length_pack_loosened_le tight 12 3 htokens hitems hmax posts).2 _ _ hbatches hbatches'⟩

example : ((tight.loosened 12 3).cut posts).map (·.map (·.id)) = [[1], [2], [3, 4, 5]] := by
  decide +kernel

/-- Instructions of almost as many tokens as a word can count, and few tokens in a request. -/
def burdened : Packer :=
  ofLimits { maxTokens := 20, baseTokens := 18446744073709551606 }

/-- A post of a hundred characters gets a batch, cut to the marker, when a request may have 20
tokens. When it may have 2000 more of the post is left, and the total with the instructions is too
large for a word. -/
theorem loosened_burdened :
    burdened.limits.maxTokens ≤ 2000 ∧ burdened.limits.maxItems ≤ burdened.limits.maxItems ∧
      (2000 : UInt64).toNat < Word.size64 - 1 ∧
      (burdened.pack [post 1 100]).map (·.length) = some 1 ∧
      (burdened.loosened 2000 burdened.limits.maxItems).pack [post 1 100] = none := by
  decide +kernel

end Precis.Packer
