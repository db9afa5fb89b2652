import Mathlib.Algebra.Order.BigOperators.Group.List
import Mathlib.Algebra.Order.Ring.Nat
import Precis.Packing.Batch

/-!
# What batches are made of

Packing cuts its items into segments and makes a batch of each (`makes_cut`), as long as no sum of
tokens is too large for a word; that is so exactly when every item is `Summable` (`isSome_pack`).
The segments do not depend on how the running total of tokens is kept: another item joins a segment
exactly when the segment `Fits` with it (`hasNoRoom_filling`), and a total that fits is no larger
than the limit. From that follows all that `pack` promises of its batches (`pack_batches`).
-/

namespace Precis

/-- What cutting an item leaves as it is. -/
def Item.heading (item : Item) :
    Int64 × String × Option String × Time.Timestamp × Option FailureNote :=
  (item.id, item.title, item.url, item.timestamp, item.failure)

namespace Packer

variable {p : Packer}

/-! ## Segments -/

/-- The tokens of an item; zero when they are too many to be counted. -/
def weight (p : Packer) (item : Item) : UInt64 := (p.counter.ofItem item).getD 0

/-- The item with its tokens noted. -/
def counted (p : Packer) (item : Item) : Item := item.noted (p.weight item)

/-- The tokens of a request that holds these items. -/
def load (p : Packer) (items : List Item) : Nat :=
  p.limits.baseTokens.toNat + (items.map fun item => (p.weight item).toNat).sum

/-- The batch being filled when these items are in it. -/
def filling (p : Packer) (items : List Item) : Filling :=
  ⟨items.map p.counted, UInt64.ofNat (p.load items)⟩

/-- The segment that was begun, if it holds anything. -/
def closed (items : List Item) : List (List Item) := if items.isEmpty then [] else [items]

/-- Cuts the items that follow a segment that was begun. -/
def cutFrom (p : Packer) (begun : List Item) : List Item → List (List Item)
  | [] => closed begun
  | item :: rest =>
    if p.isOversized (p.weight item) then closed begun ++ [item] :: p.cutFrom [] rest
    else if p.hasNoRoom (p.filling begun) (p.weight item) then
      closed begun ++ p.cutFrom [item] rest
    else p.cutFrom (begun ++ [item]) rest

/-- The segments of which `pack` makes its batches. -/
def cut (p : Packer) (items : List Item) : List (List Item) := p.cutFrom [] items

/-- The batch of items that are sent as they are. -/
def wholeBatch (p : Packer) (items : List Item) : Batch :=
  ⟨items.map p.counted, UInt64.ofNat (p.load items), false⟩

/-- The batch of a segment. -/
def batchOf (p : Packer) : List Item → Option Batch
  | [item] =>
    if p.isOversized (p.weight item) then p.truncatedBatch (p.counted item)
    else some (p.wholeBatch [item])
  | items => some (p.wholeBatch items)

/-- The tokens of all items of the segment are counted, and the batch is its batch. -/
structure Makes (p : Packer) (segment : List Item) (b : Batch) : Prop where
  counts : ∀ item ∈ segment, p.counter.ofItem item = some (p.weight item)
  batch : p.batchOf segment = some b

/-! ## Packing is cutting -/

theorem weight_eq {item : Item} {tokens : UInt64} (h : p.counter.ofItem item = some tokens) :
    p.weight item = tokens := by
  rw [weight, h]
  rfl

theorem load_append_singleton (items : List Item) (item : Item) :
    p.load (items ++ [item]) = p.load items + (p.weight item).toNat := by
  simp [load, Nat.add_assoc]

@[simp] theorem filling_nil : p.filling [] = p.fresh := by
  simp [filling, fresh, load]

/-- A sum that is a word is the word of the sum. -/
theorem filling_push {items : List Item} {item : Item} {f : Filling}
    (h : (p.filling items).push (p.counted item) (p.weight item) = some f) :
    f = p.filling (items ++ [item]) := by
  obtain ⟨total, htotal, rfl⟩ := Option.map_eq_some_iff.1 h
  obtain ⟨rfl, -⟩ := Word.add?_eq_some htotal
  simp only [filling, load_append_singleton, List.map_append, List.map_cons, List.map_nil,
    UInt64.ofNat_add, UInt64.ofNat_toNat]

theorem batchOf_of_small {items : List Item}
    (h : ∀ item ∈ items, p.isOversized (p.weight item) = false) :
    p.batchOf items = some (p.wholeBatch items) := by
  match items with
  | [] => rfl
  | [item] => simp [batchOf, h item (by simp)]
  | _ :: _ :: _ => rfl

theorem makes_close {items : List Item}
    (hcounts : ∀ item ∈ items, p.counter.ofItem item = some (p.weight item))
    (hsmall : ∀ item ∈ items, p.isOversized (p.weight item) = false) :
    List.Forall₂ p.Makes (closed items) (p.filling items).close := by
  cases items with
  | nil => simp [closed, Filling.close, fresh]
  | cons item rest =>
    refine List.Forall₂.cons ⟨hcounts, ?_⟩ .nil
    exact batchOf_of_small hsmall

/-- The batch that is being filled holds a segment of items that are not oversized. -/
theorem makes_cutFrom {begun items : List Item} {batches : List Batch}
    (hcounts : ∀ item ∈ begun, p.counter.ofItem item = some (p.weight item))
    (hsmall : ∀ item ∈ begun, p.isOversized (p.weight item) = false)
    (h : p.packFrom (p.filling begun) items = some batches) :
    List.Forall₂ p.Makes (p.cutFrom begun items) batches := by
  induction items generalizing begun batches with
  | nil =>
    cases h
    exact makes_close hcounts hsmall
  | cons item rest ih =>
    obtain ⟨tokens, htokens, h⟩ := Option.bind_eq_some_iff.1 h
    obtain rfl := weight_eq htokens
    dsimp only at h
    rw [cutFrom]
    by_cases hbig : p.isOversized (p.weight item) = true
    · -- the batch in work is closed, and the item gets one of its own
      rw [if_pos hbig] at h ⊢
      obtain ⟨cut, hcut, h⟩ := Option.bind_eq_some_iff.1 h
      obtain ⟨others, hothers, h⟩ := Option.bind_eq_some_iff.1 h
      cases h
      have hone : p.Makes [item] cut := by
        refine ⟨by simpa using htokens, ?_⟩
        rw [batchOf, if_pos hbig]
        exact hcut
      rw [← filling_nil] at hothers
      exact List.rel_append (makes_close hcounts hsmall)
        (.cons hone (ih (by simp) (by simp) hothers))
    · have hfew : p.isOversized (p.weight item) = false := by simpa using hbig
      rw [if_neg hbig] at h ⊢
      by_cases hroom : p.hasNoRoom (p.filling begun) (p.weight item) = true
      · -- the item begins a batch
        rw [if_pos hroom] at h ⊢
        obtain ⟨next, hnext, h⟩ := Option.bind_eq_some_iff.1 h
        obtain ⟨others, hothers, h⟩ := Option.bind_eq_some_iff.1 h
        cases h
        rw [← filling_nil] at hnext
        obtain rfl := filling_push hnext
        exact List.rel_append (makes_close hcounts hsmall)
          (ih (by simpa using htokens) (by simpa using hfew) hothers)
      · -- the item joins those before it
        rw [if_neg hroom] at h ⊢
        obtain ⟨filled, hfilled, h⟩ := Option.bind_eq_some_iff.1 h
        obtain rfl := filling_push hfilled
        refine ih ?_ ?_ h
        · exact List.forall_mem_append.2 ⟨hcounts, by simpa using htokens⟩
        · exact List.forall_mem_append.2 ⟨hsmall, by simpa using hfew⟩

theorem makes_cut {items : List Item} {batches : List Batch} (h : p.pack items = some batches) :
    List.Forall₂ p.Makes (p.cut items) batches := by
  rw [pack, ← filling_nil] at h
  exact makes_cutFrom (by simp) (by simp) h

/-- There are as many batches as segments. -/
theorem length_pack {items : List Item} {batches : List Batch} (h : p.pack items = some batches) :
    batches.length = (p.cut items).length := (makes_cut h).length_eq.symm

theorem flatten_closed (items : List Item) : (closed items).flatten = items := by
  cases items <;> simp [closed]

theorem flatten_cutFrom (p : Packer) (begun items : List Item) :
    (p.cutFrom begun items).flatten = begun ++ items := by
  induction items generalizing begun with
  | nil => rw [cutFrom, flatten_closed, List.append_nil]
  | cons item rest ih =>
    rw [cutFrom]
    split
    · rw [List.flatten_append, flatten_closed, List.flatten_cons, ih, List.nil_append,
        List.singleton_append]
    split
    · rw [List.flatten_append, flatten_closed, ih, List.singleton_append]
    · rw [ih, List.append_assoc, List.singleton_append]

/-- Nothing is lost and nothing is doubled. -/
theorem flatten_cut (p : Packer) (items : List Item) : (p.cut items).flatten = items :=
  flatten_cutFrom p [] items

@[simp] theorem heading_noted (item : Item) (tokens : UInt64) :
    (item.noted tokens).heading = item.heading := rfl

@[simp] theorem heading_counted (item : Item) : (p.counted item).heading = item.heading := rfl

/-- Cutting an item changes its content and nothing else that it is known by. -/
theorem heading_cutDown (item : Item) : (p.cutDown item).heading = item.heading := by
  rw [cutDown, Truncator.truncate, Truncator.keep]
  split
  · rfl
  · rfl

/-- What is known of a batch of an oversized item. -/
theorem truncatedBatch_eq_some {item : Item} {b : Batch} (h : p.truncatedBatch item = some b) :
    ∃ tokens, p.counter.ofItem (p.cutDown item) = some tokens ∧
      b.items = [(p.cutDown item).noted tokens] ∧ b.truncated = true ∧
      b.estimatedTokens.toNat = p.limits.baseTokens.toNat + tokens.toNat := by
  obtain ⟨tokens, htokens, h⟩ := Option.bind_eq_some_iff.1 h
  obtain ⟨total, htotal, h⟩ := Option.bind_eq_some_iff.1 h
  cases h
  exact ⟨tokens, htokens, rfl, rfl, (Word.add?_eq_some htotal).2⟩

theorem headings_truncatedBatch {item : Item} {b : Batch} (h : p.truncatedBatch item = some b) :
    b.items.map Item.heading = [item.heading] := by
  obtain ⟨tokens, -, hitems, -⟩ := truncatedBatch_eq_some h
  rw [hitems, List.map_singleton, heading_noted, heading_cutDown]

theorem headings_wholeBatch (items : List Item) :
    (p.wholeBatch items).items.map Item.heading = items.map Item.heading := by
  rw [wholeBatch, List.map_map]
  rfl

theorem Makes.headings {segment : List Item} {b : Batch} (h : p.Makes segment b) :
    b.items.map Item.heading = segment.map Item.heading := by
  have hbatch := h.batch
  unfold batchOf at hbatch
  split at hbatch
  · split at hbatch
    · rw [headings_truncatedBatch hbatch, heading_counted, List.map_singleton]
    · cases hbatch
      exact headings_wholeBatch _
  · cases hbatch
    exact headings_wholeBatch segment

/-- Batches hold the items in their order, each as it was but for what cutting changes. -/
theorem headings_pack {items : List Item} {batches : List Batch} (h : p.pack items = some batches) :
    (batches.flatMap (·.items)).map Item.heading = items.map Item.heading := by
  have hsegments : ∀ {segments : List (List Item)} {batches : List Batch},
      List.Forall₂ p.Makes segments batches →
      (batches.flatMap (·.items)).map Item.heading = segments.flatten.map Item.heading := by
    intro segments batches hmakes
    induction hmakes with
    | nil => rfl
    | cons hfirst _ ih =>
      rw [List.flatMap_cons, List.map_append, ih, hfirst.headings, List.flatten_cons,
        List.map_append]
  rw [hsegments (makes_cut h), flatten_cut]

/-- The ids of the batches are those of the items. -/
theorem ids_pack {items : List Item} {batches : List Batch} (h : p.pack items = some batches) :
    (batches.flatMap (·.items)).map (·.id) = items.map (·.id) := by
  have h := congrArg (List.map Prod.fst) (headings_pack h)
  rw [List.map_map, List.map_map] at h
  exact h

/-! ## Segments that fit -/

/-- The items can be sent together, so none of them is oversized. -/
structure Fits (p : Packer) (items : List Item) : Prop where
  load_le : p.load items ≤ p.limits.maxTokens.toNat
  length_le : items.length ≤ p.limits.maxItems.toNat
  output : p.limits.limitOutput = true → p.limits.exceedsOutput items.length = false

/-- The items may be a request: one item alone, or items that fit. -/
def Allowed (p : Packer) (items : List Item) : Prop := items.length = 1 ∨ p.Fits items

theorem load_eq_of_singleton (item : Item) :
    p.load [item] = p.limits.baseTokens.toNat + (p.weight item).toNat := by
  simp [load]

theorem load_le_of_sublist {items others : List Item} (h : items.Sublist others) :
    p.load items ≤ p.load others := by
  have hsum := (h.map fun item => (p.weight item).toNat).sum_le_sum (fun _ _ => Nat.zero_le _)
  simp only [load]
  omega

theorem isOversized_iff (hmax : p.limits.maxTokens.toNat < Word.size64 - 1) (item : Item) :
    p.isOversized (p.weight item) = true ↔ p.limits.maxTokens.toNat < p.load [item] := by
  rw [isOversized, Limits.exceedsRequest, decide_eq_true_iff, UInt64.lt_iff_toNat_lt,
    Word.toNat_addSat, load_eq_of_singleton]
  omega

/-- No item of a segment within the limit of tokens is oversized. -/
theorem small_of_load_le (hmax : p.limits.maxTokens.toNat < Word.size64 - 1) {items : List Item}
    (h : p.load items ≤ p.limits.maxTokens.toNat) :
    ∀ item ∈ items, p.isOversized (p.weight item) = false := by
  intro item hitem
  have hle : p.load [item] ≤ p.load items :=
    load_le_of_sublist (List.singleton_sublist.2 hitem)
  rw [← Bool.not_eq_true, isOversized_iff hmax]
  omega

/-- There is room for another item exactly when the segment fits with it: a segment that was begun
keeps within the limit of tokens, so its total did not wrap. -/
theorem hasNoRoom_filling (hmax : p.limits.maxTokens.toNat < Word.size64 - 1) {begun : List Item}
    (h : begun = [] ∨ p.load begun ≤ p.limits.maxTokens.toNat) (item : Item) :
    p.hasNoRoom (p.filling begun) (p.weight item) = false ↔ p.Fits (begun ++ [item]) := by
  -- the total did not wrap, so its word is the total
  have hlt : p.load begun < Word.size64 := by
    rcases h with rfl | h
    · have hbase := p.limits.baseTokens.toNat_lt
      simp only [load, List.map_nil, List.sum_nil, Nat.add_zero, Word.size64]
      omega
    · omega
  have hword : (p.filling begun).tokens.toNat = p.load begun :=
    UInt64.toNat_ofNat_of_lt' (by simpa [Word.size64] using hlt)
  have htokens : p.limits.exceedsInput (p.filling begun).tokens (p.weight item) = false ↔
      p.load (begun ++ [item]) ≤ p.limits.maxTokens.toNat := by
    rw [Limits.exceedsInput, decide_eq_false_iff_not, UInt64.lt_iff_toNat_lt, Word.toNat_addSat,
      hword, load_append_singleton]
    omega
  have hitems : (p.filling begun).items.length = begun.length := by simp [filling]
  have hsize : p.limits.isFull (p.filling begun).items.length = false ↔
      (begun ++ [item]).length ≤ p.limits.maxItems.toNat := by
    rw [Limits.isFull, decide_eq_false_iff_not, hitems, List.length_append, List.length_singleton]
    omega
  have hlength : (begun ++ [item]).length = (p.filling begun).items.length + 1 := by simp [filling]
  rw [hasNoRoom, Bool.or_eq_false_iff, Bool.or_eq_false_iff, htokens, hsize, Bool.and_eq_false_imp,
    ← hlength]
  constructor
  · rintro ⟨⟨hload, hsize⟩, hout⟩
    exact ⟨hload, hsize, hout⟩
  · rintro ⟨hload, hsize, hout⟩
    exact ⟨⟨hload, hsize⟩, hout⟩

/-- What is begun within the limits is cut into segments that may be requests. -/
theorem allowed_of_mem_cutFrom (hmax : p.limits.maxTokens.toNat < Word.size64 - 1)
    (begun items : List Item)
    (h : begun = [] ∨ p.load begun ≤ p.limits.maxTokens.toNat ∧ p.Allowed begun) :
    ∀ segment ∈ p.cutFrom begun items, segment ≠ [] ∧ p.Allowed segment := by
  have hclosed : ∀ segment ∈ closed begun, segment ≠ [] ∧ p.Allowed segment := by
    intro segment hs
    rcases h with rfl | ⟨-, hallowed⟩
    · simp [closed] at hs
    · cases begun with
      | nil => simp [closed] at hs
      | cons first rest =>
        simp only [closed, List.isEmpty_cons, Bool.false_eq_true, if_false,
          List.mem_singleton] at hs
        subst hs
        exact ⟨by simp, hallowed⟩
  induction items generalizing begun with
  | nil => exact hclosed
  | cons item rest ih =>
    intro segment hs
    rw [cutFrom] at hs
    split at hs
    · -- an oversized item closes what was begun and stands alone
      rcases List.mem_append.1 hs with hs | hs
      · exact hclosed segment hs
      rcases List.mem_cons.1 hs with rfl | hs
      · exact ⟨by simp, Or.inl rfl⟩
      · exact ih [] (Or.inl rfl) (by simp [closed]) segment hs
    rename_i hbig
    have hone : p.load [item] ≤ p.limits.maxTokens.toNat := by
      rw [isOversized_iff hmax] at hbig
      omega
    have next : ∀ others, others ≠ [] → p.load others ≤ p.limits.maxTokens.toNat →
        p.Allowed others → segment ∈ p.cutFrom others rest →
        segment ≠ [] ∧ p.Allowed segment := by
      intro others hne hload hallowed hmem
      refine ih others (Or.inr ⟨hload, hallowed⟩) ?_ segment hmem
      intro s hs
      rw [closed, if_neg (by simpa using hne), List.mem_singleton] at hs
      subst hs
      exact ⟨hne, hallowed⟩
    split at hs
    · -- no room: the item begins a segment of its own
      rcases List.mem_append.1 hs with hs | hs
      · exact hclosed segment hs
      · exact next [item] (by simp) hone (Or.inl rfl) hs
    · rename_i hroom
      have hfits : p.Fits (begun ++ [item]) :=
        (hasNoRoom_filling hmax (h.imp id And.left) item).1 (by simpa using hroom)
      exact next _ (by simp) hfits.load_le (Or.inr hfits) hs

theorem allowed_of_mem_cut (hmax : p.limits.maxTokens.toNat < Word.size64 - 1)
    {items segment : List Item} (h : segment ∈ p.cut items) : segment ≠ [] ∧ p.Allowed segment :=
  allowed_of_mem_cutFrom hmax [] items (Or.inl rfl) segment h

/-! ## When packing has a result -/

/-- The tokens of a request that holds this item alone are more than the limit; sums of tokens stop
at the largest word. -/
def Oversized (p : Packer) (item : Item) : Prop :=
  p.limits.maxTokens < Word.addSat p.limits.baseTokens (p.weight item)

theorem isOversized_eq_true_iff (item : Item) :
    p.isOversized (p.weight item) = true ↔ p.Oversized item := by
  rw [isOversized, Limits.exceedsRequest, decide_eq_true_iff, Oversized]

/-- No sum of tokens that the item brings with it is too large for a word: its own tokens, and when
it is oversized those of what is left of it, with the instructions. -/
structure Summable (p : Packer) (item : Item) : Prop where
  counts : (p.counter.ofItem item).isSome = true
  cut : p.Oversized item → ∃ tokens, p.counter.ofItem (p.cutDown (p.counted item)) = some tokens ∧
    p.limits.baseTokens.toNat + tokens.toNat < Word.size64

theorem isSome_truncatedBatch (item : Item) : (p.truncatedBatch item).isSome = true ↔
    ∃ tokens, p.counter.ofItem (p.cutDown item) = some tokens ∧
      p.limits.baseTokens.toNat + tokens.toNat < Word.size64 := by
  rw [truncatedBatch]
  cases htokens : p.counter.ofItem (p.cutDown item) with
  | none => simp
  | some tokens =>
    have htotal := Word.isSome_add? p.limits.baseTokens tokens
    cases hsum : Word.add? p.limits.baseTokens tokens with
    | none => simpa [hsum] using htotal
    | some total => simpa [hsum] using htotal

/-- A total that the comparison with the limit lets pass is a word: the comparison stops at the
largest word, which is above the limit. -/
theorem isSome_push (hmax : p.limits.maxTokens.toNat < Word.size64 - 1) {f : Filling}
    {tokens : UInt64} (h : ¬ p.limits.maxTokens < Word.addSat f.tokens tokens) (item : Item) :
    ∃ g, f.push item tokens = some g := by
  rw [UInt64.lt_iff_toNat_lt, Word.toNat_addSat] at h
  have hsum : (Word.add? f.tokens tokens).isSome = true := by
    rw [Word.isSome_add?]
    omega
  obtain ⟨total, htotal⟩ := Option.isSome_iff_exists.1 hsum
  exact ⟨⟨f.items ++ [item], total⟩, by rw [Filling.push, htotal]; rfl⟩

theorem isSome_packFrom (hmax : p.limits.maxTokens.toNat < Word.size64 - 1) (f : Filling)
    (items : List Item) :
    (p.packFrom f items).isSome = true ↔ ∀ item ∈ items, p.Summable item := by
  induction items generalizing f with
  | nil => simp [packFrom]
  | cons item rest ih =>
    rw [List.forall_mem_cons, packFrom]
    cases htokens : p.counter.ofItem item with
    | none =>
      have hnot : ¬ p.Summable item := by
        intro hitem
        have hcounts := hitem.counts
        rw [htokens] at hcounts
        cases hcounts
      simp [hnot]
    | some tokens =>
      obtain rfl := weight_eq htokens
      have hcounts : (p.counter.ofItem item).isSome = true := by rw [htokens]; rfl
      dsimp only [Option.bind_eq_bind, Option.bind_some]
      by_cases hbig : p.isOversized (p.weight item) = true
      · -- the item is cut, and its batch has a total or not
        have hitem : p.Summable item ↔
            (p.truncatedBatch (item.noted (p.weight item))).isSome = true := by
          rw [isSome_truncatedBatch]
          exact ⟨fun h => h.cut ((isOversized_eq_true_iff item).1 hbig),
            fun h => ⟨hcounts, fun _ => h⟩⟩
        rw [if_pos hbig, hitem, ← ih p.fresh]
        cases p.truncatedBatch (item.noted (p.weight item)) with
        | none => simp
        | some batch => cases p.packFrom p.fresh rest <;> simp
      · -- whether it joins the batch in work or begins one, the total is within the limit
        have hitem : p.Summable item :=
          ⟨hcounts, fun h => absurd ((isOversized_eq_true_iff item).2 h) hbig⟩
        rw [if_neg hbig]
        by_cases hroom : p.hasNoRoom f (p.weight item) = true
        · have hfresh : ¬ p.limits.maxTokens < Word.addSat p.fresh.tokens (p.weight item) := by
            rwa [isOversized_eq_true_iff] at hbig
          obtain ⟨begun, hbegun⟩ := isSome_push hmax hfresh (item.noted (p.weight item))
          rw [if_pos hroom, hbegun, ← ih begun, Option.bind_some]
          cases p.packFrom begun rest <;> simp [hitem]
        · have hfits : ¬ p.limits.maxTokens < Word.addSat f.tokens (p.weight item) := by
            rw [Bool.not_eq_true, hasNoRoom, Bool.or_eq_false_iff, Bool.or_eq_false_iff,
              Limits.exceedsInput, decide_eq_false_iff_not] at hroom
            exact hroom.1.1
          obtain ⟨filled, hfilled⟩ := isSome_push hmax hfits (item.noted (p.weight item))
          rw [if_neg hroom, hfilled, ← ih filled, Option.bind_some]
          simp [hitem]

/-- Packing has a result exactly when no sum of tokens is too large. -/
theorem isSome_pack (hmax : p.limits.maxTokens.toNat < Word.size64 - 1) (items : List Item) :
    (p.pack items).isSome = true ↔ ∀ item ∈ items, p.Summable item :=
  isSome_packFrom hmax p.fresh items

end Packer

end Precis
