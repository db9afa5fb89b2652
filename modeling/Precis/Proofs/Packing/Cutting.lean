import Precis.Proofs.Packing.Batches
import Precis.Proofs.Packing.Counting
import Precis.Proofs.Packing.Truncation
import Precis.Settings.Basic

/-!
# Items that are cut

An item is oversized when it is over the limit together with the instructions. The budget of its
content says nothing of the instructions: it leaves the buffer free, and the title. And the marker
comes on top of what is kept. So the cut item is sure to be a smaller one that fits only where the
buffer holds both, and a token for the errors of rounding (`Limits.Buffered`): `oversized_cut`. The
default limits are such (`Limits.buffered_default`). Limits with a smaller buffer are accepted too,
and then an item can go out whole, or grow: `oversized_whole`.

The argument is about lengths. A text no longer than the room for it and the marker takes at most a
token more than the budget and the marker's tokens (`Moderate.countOf_room_le`). This bounds the cut
item, and it also tells that an oversized item is longer than its room, since else it would fit.
-/

namespace Precis

open Decimal

/-! ## What is left of a text -/

/-- What `k` characters take that were counted as `m` tokens, at `x` tokens a character and `c`
characters a token. -/
theorem mul_le_of_counted {m k x c : Rat} (hx : 0 < x) (hm : 0 ≤ m)
    (hk : k * (1 - halfUnit) ^ 2 ≤ m * c) (hhigh : c * x ≤ 1 + halfUnit) :
    k * x ≤ m * (1 + 4 * halfUnit) := by
  -- the three roundings together cost less than four half units
  have herror : 1 + halfUnit ≤ (1 + 4 * halfUnit) * (1 - halfUnit) ^ 2 := by
    unfold halfUnit
    norm_num
  have hscale : 0 < (1 - halfUnit) ^ 2 := by
    have hpos : 0 < 1 - halfUnit := by linarith [halfUnit_lt_one]
    positivity
  refine le_of_mul_le_mul_right ?_ hscale
  calc k * x * (1 - halfUnit) ^ 2 = k * (1 - halfUnit) ^ 2 * x := by ring
    _ ≤ m * c * x := mul_le_mul_of_nonneg_right hk (le_of_lt hx)
    _ = m * (c * x) := by ring
    _ ≤ m * (1 + halfUnit) := mul_le_mul_of_nonneg_left hhigh hm
    _ ≤ m * ((1 + 4 * halfUnit) * (1 - halfUnit) ^ 2) := mul_le_mul_of_nonneg_left herror hm
    _ = m * (1 + 4 * halfUnit) * (1 - halfUnit) ^ 2 := by ring

/-- Up to `2 ^ 50` tokens the errors of counting a text of `n` characters add up to less than a
token. -/
theorem le_add_one_mul {t n x c : Rat} (hx : 0 < x) (ht : 0 ≤ t)
    (htext : n * x ≤ t * (1 + 4 * halfUnit)) (hlow : 1 - halfUnit ≤ c * x) (hless : t ≤ 2 ^ 50) :
    n * (1 + halfUnit) ^ 2 ≤ (t + 1) * c := by
  have hunit := halfUnit_lt_one
  have herror : (1 + 4 * halfUnit) * (1 + halfUnit) ^ 2 ≤ (1 - halfUnit) * (1 + 8 * halfUnit) := by
    unfold halfUnit
    norm_num
  have hsmall : t * (8 * halfUnit) ≤ 1 := by
    have hscale : 0 ≤ 8 * halfUnit := by linarith [halfUnit_pos]
    -- this is where the bound on the tokens comes in
    calc t * (8 * halfUnit) ≤ 2 ^ 50 * (8 * halfUnit) := mul_le_mul_of_nonneg_right hless hscale
      _ = 1 := by unfold halfUnit; norm_num
  refine le_of_mul_le_mul_right ?_ hx
  calc n * (1 + halfUnit) ^ 2 * x = n * x * (1 + halfUnit) ^ 2 := by ring
    _ ≤ t * (1 + 4 * halfUnit) * (1 + halfUnit) ^ 2 :=
      mul_le_mul_of_nonneg_right htext (sq_nonneg _)
    _ = t * ((1 + 4 * halfUnit) * (1 + halfUnit) ^ 2) := by ring
    _ ≤ t * ((1 - halfUnit) * (1 + 8 * halfUnit)) := mul_le_mul_of_nonneg_left herror ht
    _ = (t + t * (8 * halfUnit)) * (1 - halfUnit) := by ring
    _ ≤ (t + 1) * (1 - halfUnit) := mul_le_mul_of_nonneg_right (by linarith) (by linarith)
    _ ≤ (t + 1) * (c * x) := mul_le_mul_of_nonneg_left hlow (by linarith)
    _ = (t + 1) * c * x := by ring

/-- Of a text of `n` characters `r` fit the budget `b`, and the `k` others take `m` tokens: it takes
at most one token more than these. -/
theorem tokens_le_of_errors {b m n k r x c : Rat} (hx : 0 < x) (hm : 0 ≤ m) (hb : 0 ≤ b)
    (hn : n ≤ r + k) (hr : r * x ≤ b * (1 + halfUnit) ^ 2) (hk : k * (1 - halfUnit) ^ 2 ≤ m * c)
    (hlow : 1 - halfUnit ≤ c * x) (hhigh : c * x ≤ 1 + halfUnit) (hsum : b + m ≤ 2 ^ 50) :
    n * (1 + halfUnit) ^ 2 ≤ (b + m + 1) * c := by
  have herror : (1 + halfUnit) ^ 2 ≤ 1 + 4 * halfUnit := by
    unfold halfUnit
    norm_num
  have htext : n * x ≤ (b + m) * (1 + 4 * halfUnit) :=
    calc n * x ≤ (r + k) * x := mul_le_mul_of_nonneg_right hn (le_of_lt hx)
      _ = r * x + k * x := by ring
      _ ≤ b * (1 + halfUnit) ^ 2 + m * (1 + 4 * halfUnit) :=
          add_le_add hr (mul_le_of_counted hx hm hk hhigh)
      _ ≤ b * (1 + 4 * halfUnit) + m * (1 + 4 * halfUnit) :=
          add_le_add_left (mul_le_mul_of_nonneg_left herror hb) _
      _ = (b + m) * (1 + 4 * halfUnit) := by ring
  exact le_add_one_mul hx (add_nonneg hb hm) htext hlow hsum

/-- A ratio far from the ends of the doubles, and so its reciprocal. -/
structure Moderate (x : Float) : Prop where
  proper : Proper x
  small : 2 ^ (-999 : Int) ≤ number x
  large : number x ≤ 2 ^ (1000 : Int)

namespace Moderate

variable {x : Float}

theorem proper_reciprocal (h : Moderate x) : Proper (1 / x) :=
  Decimal.proper_reciprocal h.proper
    (le_trans (zpow_le_zpow_right₀ (by norm_num) (by decide)) h.small) h.large

theorem tokensPerChar_eq (h : Moderate x) : (Truncator.ofTokensPerChar x).tokensPerChar = x := by
  rw [Truncator.ofTokensPerChar, if_pos ((isPositive_iff x).2 h.proper)]

theorem charsPerToken_eq (h : Moderate x) :
    (Estimator.ofTokensPerChar x).charsPerToken = 1 / x := by
  rw [Estimator.ofTokensPerChar, if_pos ((isPositive_iff x).2 h.proper), Estimator.ofCharsPerToken,
    if_pos ((isPositive_iff _).2 h.proper_reciprocal)]

theorem reciprocal_le (h : Moderate x) : number (1 / x) ≤ 2 ^ (1000 : Int) := by
  have hpos := h.proper_reciprocal.number_pos
  have hunit := halfUnit_lt_one
  have hproduct := (number_reciprocal h.proper h.proper_reciprocal.2 h.large).2
  refine le_of_mul_le_mul_right (a := 2 ^ (-999 : Int)) ?_ (by positivity)
  calc number (1 / x) * 2 ^ (-999 : Int) ≤ number (1 / x) * number x :=
        mul_le_mul_of_nonneg_left h.small (le_of_lt hpos)
    _ ≤ 2 ^ (1 : Int) := by rw [zpow_one]; linarith
    _ = 2 ^ (1000 : Int) * 2 ^ (-999 : Int) := by rw [← zpow_add₀ (by norm_num)]; rfl

/-- The characters that a budget has room for, and `k` more, take at most one token more than the
budget and what `k` characters take. -/
theorem countOf_room_le (h : Moderate x) {budget : UInt64} {n k : Nat}
    (hsum : budget.toNat + ((Estimator.ofTokensPerChar x).countOf k).toNat ≤ 2 ^ 50)
    (hk : k < Word.size64) (hn : n ≤ ((Truncator.ofTokensPerChar x).maxChars budget).toNat + k) :
    ((Estimator.ofTokensPerChar x).countOf n).toNat ≤
      budget.toNat + ((Estimator.ofTokensPerChar x).countOf k).toNat + 1 := by
  obtain ⟨room, hroom⟩ : ∃ room, room = ((Truncator.ofTokensPerChar x).maxChars budget).toNat :=
    ⟨_, rfl⟩
  obtain ⟨extra, hextra⟩ : ∃ extra, extra = ((Estimator.ofTokensPerChar x).countOf k).toNat :=
    ⟨_, rfl⟩
  rw [← hextra] at hsum ⊢
  rw [← hroom] at hn
  have hratio := Estimator.proper_ofTokensPerChar x
  have hreciprocal := number_reciprocal h.proper h.proper_reciprocal.2 h.large
  -- what the budget has room for
  have hbudget : room * number x ≤ budget.toNat * (1 + halfUnit) ^ 2 := by
    have hle := Truncator.maxChars_le (Truncator.proper_ofTokensPerChar x) budget
    rwa [h.tokensPerChar_eq, ← hroom] at hle
  -- what the further characters take
  have hfurther : k * (1 - halfUnit) ^ 2 ≤ extra * number (1 / x) := by
    have hle := Estimator.le_countOf hratio (h.charsPerToken_eq ▸ h.reciprocal_le) hk
      (by rw [← hextra, Word.size64]; omega)
    rwa [h.charsPerToken_eq, ← hextra] at hle
  have hlength : (n : Rat) ≤ room + k := by exact_mod_cast hn
  have htokens : (budget.toNat : Rat) + extra ≤ 2 ^ 50 := by exact_mod_cast hsum
  refine Estimator.countOf_le hratio (by omega) ?_
  rw [h.charsPerToken_eq]
  push_cast
  exact tokens_le_of_errors h.proper.number_pos (Nat.cast_nonneg _) (Nat.cast_nonneg _)
    hlength hbudget hfurther hreciprocal.1 hreciprocal.2 htokens

end Moderate

/-! ## Limits that leave room -/

theorem Settings.tokensPerChar_of_check {s : Settings} (h : s.check = .ok ()) :
    Proper s.batch.tokensPerChar := by
  have hmet := Settings.isMet_of_check h (d := ⟨"batch.tokens_per_char",
    s.batch.tokensPerChar.isFinite && s.batch.tokensPerChar > 0, "must be a positive number"⟩)
    (by simp [Settings.demands])
  exact (isPositive_iff _).1 hmet

theorem Settings.truncationBuffer_of_check {s : Settings} (h : s.check = .ok ()) :
    s.batch.truncationBuffer < s.batch.maxTokens := by
  have hmet := Settings.isMet_of_check h (d := ⟨"batch.truncation_buffer_tokens",
    s.batch.truncationBuffer < s.batch.maxTokens, "must be smaller than max_tokens_per_request"⟩)
    (by simp [Settings.demands])
  simpa using hmet

/-- The tokens that a cut item keeps free are enough for the instructions and for the marker, with
one to spare for the errors of rounding, which stay that small up to `2 ^ 50` tokens. -/
structure Limits.Buffered (l : Limits) : Prop where
  tokens_le : l.maxTokens.toNat ≤ 2 ^ 50
  ratio_ge : 1e-300 ≤ l.tokensPerChar
  ratio_le : l.tokensPerChar ≤ 1e300
  buffer_ge : l.baseTokens.toNat + ((Packer.ofLimits l).counter.count Truncator.marker).toNat + 1 ≤
    l.truncationBuffer.toNat

theorem Limits.buffered_default : ({} : Limits).Buffered where
  tokens_le := by decide
  ratio_ge := by decide +kernel
  ratio_le := by decide +kernel
  buffer_ge := by decide +kernel

theorem Limits.Buffered.moderate {l : Limits} (h : l.Buffered) (hratio : Proper l.tokensPerChar) :
    Moderate l.tokensPerChar := by
  obtain ⟨low, hlow⟩ : ∃ low : Float, low = 1e-300 := ⟨_, rfl⟩
  obtain ⟨high, hhigh⟩ : ∃ high : Float, high = 1e300 := ⟨_, rfl⟩
  have hproper : Proper low ∧ Proper high := by
    rw [← isPositive_iff, ← isPositive_iff, hlow, hhigh]
    decide +kernel
  -- each end is compared by its mantissa and exponent
  have hleast : (2 : Rat) ^ (-999 : Int) ≤ number low := by
    have hb : 2 ^ 52 ≤ (binaryOfBits low.toBits.toNat).mantissa ∧
        (binaryOfBits low.toBits.toNat).exponent = -1049 := by
      rw [hlow]
      decide +kernel
    refine le_trans ?_ (Binary.le_value hb.1)
    rw [hb.2]
    exact zpow_le_zpow_right₀ (by norm_num) (by decide)
  have hmost : number high ≤ 2 ^ (1000 : Int) := by
    have hb : (binaryOfBits high.toBits.toNat).exponent = 944 := by
      rw [hhigh]
      decide +kernel
    refine le_trans (le_of_lt (canonical_binaryOfBits _).value_lt) ?_
    rw [hb]
    exact zpow_le_zpow_right₀ (by norm_num) (by decide)
  exact
    { proper := hratio
      small := le_trans hleast (number_le_of_le hproper.1 hratio (hlow ▸ h.ratio_ge))
      large := le_trans (number_le_of_le hratio hproper.2 (hhigh ▸ h.ratio_le)) hmost }

namespace Packer

variable {p : Packer}

/-- What an oversized item becomes in the batch that carries it. A part of its content is left, with
the marker after it; and when the title alone is not too long, the item is smaller than it was and
fits a request. -/
structure Cuts (p : Packer) (item : Item) (b : Batch) : Prop where
  cut : ∃ carried before after, b.items = [carried] ∧ carried.heading = item.heading ∧
    p.counter.ofItem item = some before ∧ p.counter.ofItem carried = some after ∧
    (item.content ≠ "" → carried.truncated = true ∧ ∃ kept, kept <+: item.content.toList ∧
      kept.length < item.content.length ∧
      carried.content = String.ofList (kept ++ Truncator.marker.toList)) ∧
    (p.counter.count item.title ≤ p.limits.truncationBudget →
      after < before ∧ b.estimatedTokens ≤ p.limits.maxTokens)

/-- Only an oversized item is in a batch that is marked as truncated. -/
theorem Makes.of_truncated {segment : List Item} {b : Batch} (h : p.Makes segment b)
    (htruncated : b.truncated = true) :
    ∃ item, segment = [item] ∧ p.Oversized item ∧ p.truncatedBatch (p.counted item) = some b := by
  have hbatch := h.batch
  unfold batchOf at hbatch
  split at hbatch
  · rename_i item
    split at hbatch
    · rename_i hbig
      exact ⟨item, rfl, (isOversized_eq_true_iff item).1 hbig, hbatch⟩
    · cases hbatch
      cases htruncated
  · cases hbatch
    cases htruncated

theorem lt_of_oversized {item : Item} (h : p.Oversized item) :
    p.limits.maxTokens.toNat < p.limits.baseTokens.toNat + (p.weight item).toNat := by
  rw [Oversized, UInt64.lt_iff_toNat_lt, Word.toNat_addSat] at h
  omega

/-- The characters that an item may keep of its content. -/
def room (p : Packer) (item : Item) : Nat := (p.truncator.maxChars (p.contentBudget item)).toNat

/-- An item whose content is longer than the room for it loses the end of its content. -/
theorem cutDown_of_lt {item : Item} (h : p.room item < item.content.length) :
    p.cutDown (p.counted item) = { p.counted item with
      content := Truncator.cut (p.room item) item.content, truncated := true } := by
  have hlong : p.room item < (p.counted item).content.length := h
  exact Truncator.keep_of_lt hlong

section Buffered

variable {l : Limits} {item : Item}

theorem toNat_of_ofItem_ofLimits {tokens : UInt64}
    (h : (ofLimits l).counter.ofItem item = some tokens) :
    tokens.toNat = ((ofLimits l).counter.count item.title).toNat +
      ((ofLimits l).counter.count item.content).toNat :=
  (Word.add?_eq_some h).2

/-- The budget for the content is what the limit leaves beside the buffer and the title. -/
theorem toNat_contentBudget (l : Limits) (item : Item) :
    ((ofLimits l).contentBudget item).toNat = l.maxTokens.toNat - l.truncationBuffer.toNat -
      ((ofLimits l).counter.count item.title).toNat := by
  rw [contentBudget, Word.toNat_subSat, Limits.truncationBudget, Word.toNat_subSat]
  rfl

theorem title_le_iff : (ofLimits l).counter.count item.title ≤ l.truncationBudget ↔
    ((ofLimits l).counter.count item.title).toNat ≤
      l.maxTokens.toNat - l.truncationBuffer.toNat := by
  rw [UInt64.le_iff_toNat_le, Limits.truncationBudget, Word.toNat_subSat]

/-- A title that takes the whole budget leaves no room. -/
theorem room_eq_zero (h : ¬ (ofLimits l).counter.count item.title ≤ l.truncationBudget) :
    (ofLimits l).room item = 0 := by
  have hproper := Truncator.proper_ofTokensPerChar l.tokensPerChar
  -- with no budget there are no characters
  have hle := Truncator.maxChars_le hproper ((ofLimits l).contentBudget item)
  have hbudget : ((ofLimits l).contentBudget item).toNat = 0 := by
    rw [title_le_iff] at h
    rw [toNat_contentBudget]
    omega
  rw [hbudget, Nat.cast_zero, zero_mul] at hle
  by_contra hsome
  have hpos : (0 : Rat) < (ofLimits l).room item := by exact_mod_cast Nat.pos_of_ne_zero hsome
  exact absurd (mul_pos hpos hproper.number_pos) (not_lt.2 hle)

variable (hbuffered : l.Buffered) (hratio : Proper l.tokensPerChar)
  (hbuffer : l.truncationBuffer < l.maxTokens)

include hbuffered hratio hbuffer

/-- A text that is no longer than the room and the marker takes no more than what the title leaves
of the limit, less the instructions. -/
theorem toNat_count_le_of_room (text : String)
    (htext : text.length ≤ (ofLimits l).room item + Truncator.marker.length)
    (htitle : (ofLimits l).counter.count item.title ≤ l.truncationBudget) :
    l.baseTokens.toNat + ((ofLimits l).counter.count item.title).toNat +
      ((ofLimits l).counter.count text).toNat ≤ l.maxTokens.toNat := by
  have hbudget := toNat_contentBudget l item
  have htokens := hbuffered.tokens_le
  have hspare := hbuffered.buffer_ge
  rw [UInt64.lt_iff_toNat_lt] at hbuffer
  -- the buffer holds the instructions, the marker and the one token that rounding may cost
  rw [title_le_iff] at htitle
  have hsum : ((ofLimits l).contentBudget item).toNat +
      ((ofLimits l).counter.count Truncator.marker).toNat ≤ 2 ^ 50 := by omega
  have hmarker : Truncator.marker.length < Word.size64 := by decide
  have hcount : ((ofLimits l).counter.count text).toNat ≤ ((ofLimits l).contentBudget item).toNat +
      ((ofLimits l).counter.count Truncator.marker).toNat + 1 :=
    (hbuffered.moderate hratio).countOf_room_le hsum hmarker htext
  omega

variable {before : UInt64} (hbefore : (ofLimits l).counter.ofItem item = some before)
  (hbig : (ofLimits l).Oversized item)

include hbefore hbig

/-- When the title fits, the content of an oversized item is longer than the room for it: otherwise
the item would fit a request. -/
theorem room_lt_of_title_le
    (htitle : (ofLimits l).counter.count item.title ≤ l.truncationBudget) :
    (ofLimits l).room item < item.content.length := by
  by_contra hshort
  have hcount :=
    toNat_count_le_of_room hbuffered hratio hbuffer item.content (by omega) htitle
  have hitem := toNat_of_ofItem_ofLimits hbefore
  have hover : l.maxTokens.toNat < l.baseTokens.toNat + before.toNat := by
    have hlt := lt_of_oversized hbig
    rwa [weight_eq hbefore] at hlt
  omega

theorem room_lt_of_oversized (hcontent : item.content ≠ "") :
    (ofLimits l).room item < item.content.length := by
  -- if the title is too long there is no room at all, and some content is lost anyhow
  by_cases htitle : (ofLimits l).counter.count item.title ≤ l.truncationBudget
  · exact room_lt_of_title_le hbuffered hratio hbuffer hbefore hbig htitle
  · rw [room_eq_zero htitle, Nat.pos_iff_ne_zero]
    intro hnone
    exact hcontent (String.length_eq_zero_iff.1 hnone)

theorem cuts_truncatedBatch {b : Batch}
    (hbatch : (ofLimits l).truncatedBatch ((ofLimits l).counted item) = some b) :
    (ofLimits l).Cuts item b := by
  obtain ⟨after, hafter, hitems, -, htotal⟩ := truncatedBatch_eq_some hbatch
  refine ⟨_, before, after, hitems, ?_, hbefore, hafter, ?_, ?_⟩
  · rw [heading_noted, heading_cutDown, heading_counted]
  · -- an item with content loses some of it
    intro hcontent
    have hlong := room_lt_of_oversized hbuffered hratio hbuffer hbefore hbig hcontent
    rw [cutDown_of_lt hlong]
    refine ⟨rfl, _, List.take_prefix _ _, ?_, rfl⟩
    rw [List.length_take, String.length_toList]
    exact Nat.lt_of_le_of_lt (Nat.min_le_left _ _) hlong
  · intro htitle
    have hlong := room_lt_of_title_le hbuffered hratio hbuffer hbefore hbig htitle
    have hcarried := cutDown_of_lt hlong
    have htitles := congrArg Item.title hcarried
    have hcontents := congrArg Item.content hcarried
    -- the cut content is as long as the room and the marker, so the item is within the limit
    have hlength : (Truncator.cut ((ofLimits l).room item) item.content).length ≤
        (ofLimits l).room item + Truncator.marker.length := by
      rw [Truncator.length_cut (Nat.le_of_lt hlong)]
    have htext := toNat_count_le_of_room hbuffered hratio hbuffer _ hlength htitle
    have hcut := toNat_of_ofItem_ofLimits hafter
    rw [htitles, hcontents] at hcut
    dsimp only [counted, Item.noted] at hcut
    have hover := lt_of_oversized hbig
    rw [weight_eq hbefore] at hover
    have hlimits : (ofLimits l).limits = l := rfl
    rw [hlimits] at htotal hover
    rw [UInt64.lt_iff_toNat_lt, UInt64.le_iff_toNat_le, hlimits]
    omega

end Buffered

/-- Under accepted settings whose buffer is large enough, every batch that is marked as truncated
carries one oversized item that was cut. There are batches unless a sum of tokens that an item
brings with it is too large for a word. -/
theorem oversized_cut (s : Settings) (hcheck : s.check = .ok ()) (hbuffered : s.batch.Buffered)
    (items : List Item) :
    (((ofLimits s.batch).pack items).isSome = true ↔
        ∀ item ∈ items, (ofLimits s.batch).Summable item) ∧
      ∀ batches, (ofLimits s.batch).pack items = some batches →
        ∃ segments : List (List Item), segments.flatten = items ∧
          List.Forall₂ (fun segment b => b.truncated = true → ∃ item, segment = [item] ∧
            (ofLimits s.batch).Cuts item b) segments batches := by
  have hmax : (ofLimits s.batch).limits.maxTokens.toNat < Word.size64 - 1 :=
    Nat.lt_of_le_of_lt hbuffered.tokens_le (by decide)
  refine ⟨isSome_pack hmax items, ?_⟩
  intro batches hbatches
  refine ⟨(ofLimits s.batch).cut items, flatten_cut _ items, (makes_cut hbatches).imp ?_⟩
  intro segment b hmakes htruncated
  obtain ⟨item, rfl, hbig, hbatch⟩ := hmakes.of_truncated htruncated
  exact ⟨item, rfl, cuts_truncatedBatch hbuffered (Settings.tokensPerChar_of_check hcheck)
    (Settings.truncationBuffer_of_check hcheck) (hmakes.counts item (by simp)) hbig hbatch⟩

/-- A small request, of which a cut item keeps half free. -/
def halfFree : Settings := { batch := { maxTokens := 16, baseTokens := 2, truncationBuffer := 8 } }

theorem oversized_cut_halfFree :
    halfFree.check = .ok () ∧ halfFree.batch.Buffered ∧
      ∃ batches, (ofLimits halfFree.batch).pack [post 1 64, post 2 8] = some batches ∧
        ∃ segments : List (List Item), segments.flatten = [post 1 64, post 2 8] ∧
          List.Forall₂ (fun segment b => b.truncated = true → ∃ item, segment = [item] ∧
            (ofLimits halfFree.batch).Cuts item b) segments batches := by
  have hcheck : halfFree.check = .ok () := rfl
  have hbuffered : halfFree.batch.Buffered :=
    { tokens_le := by decide
      ratio_ge := by decide +kernel
      ratio_le := by decide +kernel
      buffer_ge := by decide +kernel }
  have hsome : ((ofLimits halfFree.batch).pack [post 1 64, post 2 8]).isSome = true := by
    decide +kernel
  obtain ⟨batches, hbatches⟩ := Option.isSome_iff_exists.1 hsome
  obtain ⟨-, hcut⟩ := oversized_cut halfFree hcheck hbuffered [post 1 64, post 2 8]
  exact ⟨hcheck, hbuffered, batches, hbatches, hcut batches hbatches⟩

example : ((ofLimits halfFree.batch).pack [post 1 64, post 2 8]).map
    (·.map fun b => (b.truncated, b.items.map (·.content.length))) =
      some [(true, [47]), (false, [8])] := by
  decide +kernel

/-- Limits that are accepted though a cut item keeps less free than the instructions take. -/
def unbuffered : Limits := { maxTokens := 100, baseTokens := 95, truncationBuffer := 10 }

/-- Limits that are accepted though a cut item keeps nothing free for the marker. -/
def unmarked : Limits := { maxTokens := 10, baseTokens := 0, truncationBuffer := 0 }

/-- Without such a buffer an oversized item can be sent whole, over the limit and with no mark of
its own, or grow by the marker, from eleven tokens to fourteen. -/
theorem oversized_whole :
    (({ batch := unbuffered } : Settings).check = .ok () ∧
      (ofLimits unbuffered).pack [post 1 40] =
        some [⟨[{ post 1 40 with tokenEstimate := some 10 }], 105, true⟩]) ∧
    (({ batch := unmarked } : Settings).check = .ok () ∧
      (ofLimits unmarked).counter.ofItem (post 1 44) = some 11 ∧
      ((ofLimits unmarked).pack [post 1 44]).map
        (·.map fun b => (b.truncated, b.estimatedTokens)) = some [(true, 14)]) := by
  refine ⟨⟨rfl, ?_⟩, rfl, ?_, ?_⟩
  · decide +kernel
  · decide +kernel
  · decide +kernel

end Packer

end Precis
