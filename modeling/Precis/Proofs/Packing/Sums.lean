import Precis.Proofs.Packing.Batches
import Precis.Proofs.Packing.Counting
import Precis.Proofs.Packing.Truncation
import Precis.Settings.Basic

/-!
# Sums of tokens

Packing adds words in three places: the two counts of an item, the total of a batch that is being
filled, and that of a batch with a cut item. None of them wraps. Where packing has a result, every
estimate and every total is the sum of the counts themselves (`TrueSums`), whatever the limits:
`trueSums_pack`. The total of the batch in work is the invariant of the induction (`TrueFilling`).

It has a result when every item is `Summable`. With at most a billion tokens a character and
instructions of at most `2 ^ 62` tokens every item with texts of fewer than `2 ^ 32` characters is
(`summable_of_length_lt`). Settings that are accepted need not keep to that, and then there are
items whose tokens cannot be added up: `sums_unbounded`.
-/

namespace Precis

open Decimal

/-- The tokens of an item are those of its texts. -/
def TokenCounter.Additive (c : TokenCounter) : Prop :=
  ∀ item, c.ofItem item = Word.add? (c.count item.title) (c.count item.content)

namespace Packer

variable {p : Packer}

theorem additive_ofLimits (limits : Limits) : (ofLimits limits).counter.Additive := fun _ => rfl

/-! ## What is added up -/

/-- The tokens of the texts of an item, as a number. -/
def tokensOf (p : Packer) (item : Item) : Nat :=
  (p.counter.count item.title).toNat + (p.counter.count item.content).toNat

/-- The estimate of an item is the sum of its counts. -/
def TrueEstimate (p : Packer) (item : Item) : Prop :=
  ∃ tokens, item.tokenEstimate = some tokens ∧ tokens.toNat = p.tokensOf item

/-- The estimates of a batch are the sums of the counts of its items, and its total is that of all
of them and of the instructions. -/
structure TrueSums (p : Packer) (b : Batch) : Prop where
  estimates : ∀ item ∈ b.items, p.TrueEstimate item
  total : b.estimatedTokens.toNat = p.limits.baseTokens.toNat + (b.items.map p.tokensOf).sum

/-- The total of a batch that is being filled is that of its items. -/
structure TrueFilling (p : Packer) (f : Filling) : Prop where
  estimates : ∀ item ∈ f.items, p.TrueEstimate item
  total : f.tokens.toNat = p.limits.baseTokens.toNat + (f.items.map p.tokensOf).sum

theorem toNat_of_ofItem (hadd : p.counter.Additive) {item : Item} {tokens : UInt64}
    (h : p.counter.ofItem item = some tokens) : tokens.toNat = p.tokensOf item := by
  rw [hadd] at h
  exact (Word.add?_eq_some h).2

theorem trueFilling_fresh : p.TrueFilling p.fresh where
  estimates := by simp [fresh]
  total := by simp [fresh]

theorem TrueFilling.push (hadd : p.counter.Additive) {f g : Filling} {item : Item}
    {tokens : UInt64} (h : p.TrueFilling f) (htokens : p.counter.ofItem item = some tokens)
    (hpush : f.push (item.noted tokens) tokens = some g) : p.TrueFilling g := by
  obtain ⟨total, htotal, rfl⟩ := Option.map_eq_some_iff.1 hpush
  have hitem := toNat_of_ofItem hadd htokens
  constructor
  · intro i hi
    rcases List.mem_append.1 hi with hi | hi
    · exact h.estimates i hi
    · rw [List.mem_singleton.1 hi]
      exact ⟨tokens, rfl, hitem⟩
  · rw [(Word.add?_eq_some htotal).2, h.total, hitem, List.map_append, List.sum_append,
      Nat.add_assoc]
    simp [tokensOf, Item.noted]

theorem TrueFilling.close {f : Filling} (h : p.TrueFilling f) : ∀ b ∈ f.close, p.TrueSums b := by
  intro b hb
  unfold Filling.close at hb
  split at hb
  · cases hb
  · rw [List.mem_singleton.1 hb]
    exact ⟨h.estimates, h.total⟩

theorem trueSums_truncatedBatch (hadd : p.counter.Additive) {item : Item} {b : Batch}
    (h : p.truncatedBatch item = some b) : p.TrueSums b := by
  obtain ⟨tokens, htokens, hitems, -, htotal⟩ := truncatedBatch_eq_some h
  have hitem := toNat_of_ofItem hadd htokens
  constructor
  · intro i hi
    rw [hitems, List.mem_singleton] at hi
    subst hi
    exact ⟨tokens, rfl, hitem⟩
  · rw [htotal, hitem, hitems]
    simp [tokensOf, Item.noted]

theorem TrueFilling.packFrom (hadd : p.counter.Additive) {items : List Item} {f : Filling}
    (hf : p.TrueFilling f) {batches : List Batch} (h : p.packFrom f items = some batches) :
    ∀ b ∈ batches, p.TrueSums b := by
  induction items generalizing f batches with
  | nil =>
    cases h
    exact hf.close
  | cons item rest ih =>
    obtain ⟨tokens, htokens, h⟩ := Option.bind_eq_some_iff.1 h
    dsimp only at h
    intro b hb
    split at h
    · -- the item is cut
      obtain ⟨cut, hcut, h⟩ := Option.bind_eq_some_iff.1 h
      obtain ⟨others, hothers, h⟩ := Option.bind_eq_some_iff.1 h
      cases h
      rcases List.mem_append.1 hb with hb | hb
      · exact hf.close b hb
      rcases List.mem_cons.1 hb with rfl | hb
      · exact trueSums_truncatedBatch hadd hcut
      · exact ih trueFilling_fresh hothers b hb
    split at h
    · -- the item begins a batch
      obtain ⟨begun, hbegun, h⟩ := Option.bind_eq_some_iff.1 h
      obtain ⟨others, hothers, h⟩ := Option.bind_eq_some_iff.1 h
      cases h
      rcases List.mem_append.1 hb with hb | hb
      · exact hf.close b hb
      · exact ih (trueFilling_fresh.push hadd htokens hbegun) hothers b hb
    · -- the item joins those before it
      obtain ⟨filled, hfilled, h⟩ := Option.bind_eq_some_iff.1 h
      exact ih (hf.push hadd htokens hfilled) h b hb

/-- What is packed has true sums, whatever the limits. -/
theorem trueSums_pack (hadd : p.counter.Additive) {items : List Item} {batches : List Batch}
    (h : p.pack items = some batches) : ∀ b ∈ batches, p.TrueSums b :=
  trueFilling_fresh.packFrom hadd h

/-! ## Limits under which all items can be packed -/

/-- With at most a billion tokens a character, a text that short takes at most `2 ^ 62` tokens. -/
theorem toNat_count_le {limits : Limits} (hratio : limits.tokensPerChar ≤ 1000000000)
    (text : String) (h : text.length ≤ 2 ^ 32 + 15) :
    ((ofLimits limits).counter.count text).toNat ≤ 2 ^ 62 := by
  refine Estimator.countOf_le (Estimator.proper_ofTokensPerChar _) (by decide) ?_
  have hchars := Estimator.le_number_ofTokensPerChar hratio
  have hlength : (text.length : Rat) ≤ 2 ^ 32 + 15 := by exact_mod_cast h
  have herror : (2 ^ 32 + 15) * (1 + halfUnit) ^ 2 * 1000000000 ≤ 2 ^ 62 * (1 - halfUnit) := by
    unfold halfUnit
    norm_num
  have hleft : text.length * (1 + halfUnit) ^ 2 ≤ (2 ^ 32 + 15) * (1 + halfUnit) ^ 2 :=
    mul_le_mul_of_nonneg_right hlength (sq_nonneg _)
  push_cast
  linarith

/-- The tokens of an item with texts that short are a word, and one well below the largest. -/
theorem exists_ofItem_le {limits : Limits} (hratio : limits.tokensPerChar ≤ 1000000000)
    (item : Item) (htitle : item.title.length ≤ 2 ^ 32 + 15)
    (hcontent : item.content.length ≤ 2 ^ 32 + 15) :
    ∃ tokens, (ofLimits limits).counter.ofItem item = some tokens ∧ tokens.toNat ≤ 2 ^ 63 := by
  have htitle := toNat_count_le hratio item.title htitle
  have hcontent := toNat_count_le hratio item.content hcontent
  have hsome : ((ofLimits limits).counter.ofItem item).isSome = true := by
    rw [additive_ofLimits, Word.isSome_add?, Word.size64]
    omega
  obtain ⟨tokens, htokens⟩ := Option.isSome_iff_exists.1 hsome
  refine ⟨tokens, htokens, ?_⟩
  rw [toNat_of_ofItem (additive_ofLimits limits) htokens, tokensOf]
  omega

theorem summable_of_length_lt {limits : Limits} (hratio : limits.tokensPerChar ≤ 1000000000)
    (hbase : limits.baseTokens.toNat ≤ 2 ^ 62) {item : Item}
    (htitle : item.title.length < 2 ^ 32) (hcontent : item.content.length < 2 ^ 32) :
    (ofLimits limits).Summable item := by
  constructor
  · obtain ⟨tokens, htokens, -⟩ := exists_ofItem_le hratio item (by omega) (by omega)
    rw [htokens]
    rfl
  · -- the marker is the only thing that cutting adds
    intro _
    obtain ⟨noted, hnoted⟩ : ∃ noted, noted = (ofLimits limits).counted item := ⟨_, rfl⟩
    have htitles : ((ofLimits limits).cutDown noted).title = item.title := by
      rw [cutDown, Truncator.truncate, Truncator.title_keep, hnoted]
      rfl
    have hlength : ((ofLimits limits).cutDown noted).content.length ≤
        item.content.length + Truncator.marker.length := by
      rw [cutDown, Truncator.truncate]
      have hle := Truncator.length_keep_le
        ((ofLimits limits).truncator.maxChars ((ofLimits limits).contentBudget noted)).toNat noted
      rwa [show noted.content = item.content by rw [hnoted]; rfl] at hle
    have hmarker : Truncator.marker.length = 15 := by decide
    obtain ⟨tokens, htokens, hle⟩ := exists_ofItem_le hratio ((ofLimits limits).cutDown noted)
      (by rw [htitles]; omega) (by omega)
    refine ⟨tokens, hnoted ▸ htokens, ?_⟩
    have hbase : (ofLimits limits).limits.baseTokens.toNat ≤ 2 ^ 62 := hbase
    rw [Word.size64]
    omega

/-- What is packed has true sums. And with a limit below the largest word, at most a billion tokens
a character and instructions of at most `2 ^ 62` tokens, items are packed as long as their texts
have fewer than `2 ^ 32` characters. -/
theorem sums_exact (limits : Limits) (items : List Item) :
    (∀ batches, (ofLimits limits).pack items = some batches →
      ∀ b ∈ batches, (ofLimits limits).TrueSums b) ∧
    (limits.maxTokens.toNat < Word.size64 - 1 → limits.tokensPerChar ≤ 1000000000 →
      limits.baseTokens.toNat ≤ 2 ^ 62 →
      (∀ item ∈ items, item.title.length < 2 ^ 32 ∧ item.content.length < 2 ^ 32) →
      ((ofLimits limits).pack items).isSome = true) := by
  refine ⟨fun _ => trueSums_pack (additive_ofLimits limits), ?_⟩
  intro hmax hratio hbase htexts
  refine (isSome_pack hmax items).2 ?_
  intro item hitem
  obtain ⟨htitle, hcontent⟩ := htexts item hitem
  exact summable_of_length_lt hratio hbase htitle hcontent

/-- A small request, with a quarter of a token a character. -/
def smallRequest : Limits :=
  { maxTokens := 10, maxItems := 2, baseTokens := 2, truncationBuffer := 1 }

theorem sums_exact_small :
    smallRequest.maxTokens.toNat < Word.size64 - 1 ∧ smallRequest.tokensPerChar ≤ 1000000000 ∧
      smallRequest.baseTokens.toNat ≤ 2 ^ 62 ∧
      (∀ item ∈ posts, item.title.length < 2 ^ 32 ∧ item.content.length < 2 ^ 32) ∧
      ∃ batches, (ofLimits smallRequest).pack posts = some batches ∧
        ∀ b ∈ batches, (ofLimits smallRequest).TrueSums b := by
  have hmax : smallRequest.maxTokens.toNat < Word.size64 - 1 := by decide
  have hratio : smallRequest.tokensPerChar ≤ 1000000000 := by decide +kernel
  have hbase : smallRequest.baseTokens.toNat ≤ 2 ^ 62 := by decide
  have htexts : ∀ item ∈ posts, item.title.length < 2 ^ 32 ∧ item.content.length < 2 ^ 32 := by
    decide +kernel
  obtain ⟨htrue, hpacked⟩ := sums_exact smallRequest posts
  obtain ⟨batches, hbatches⟩ := Option.isSome_iff_exists.1 (hpacked hmax hratio hbase htexts)
  exact ⟨hmax, hratio, hbase, htexts, batches, hbatches, htrue batches hbatches⟩

/-- Limits that are accepted: instructions of as many tokens as a word can count, with a low limit
on a request and with none, and texts whose every character takes more tokens than that. -/
def unbounded : List Limits :=
  [endless, { maxTokens := 18446744073709551615, baseTokens := 18446744073709551615 },
    { tokensPerChar := 1e300 }]

/-- A post of a few characters. -/
def short : Item := { post 1 4 with title := "t" }

/-- Under each of these limits a sum for one short post is too large for a word: that of the cut
item with the instructions, that of the batch in work, and that of title and content. -/
theorem sums_unbounded :
    (∀ limits ∈ unbounded, ({ batch := limits } : Settings).check = .ok () ∧
      (ofLimits limits).pack [short] = none) ∧
    unbounded.map (fun limits => (((ofLimits limits).counter.ofItem short).isNone,
      (ofLimits limits).isOversized ((ofLimits limits).weight short))) =
        [(false, true), (false, false), (true, false)] := by
  decide +kernel

end Packer

end Precis
