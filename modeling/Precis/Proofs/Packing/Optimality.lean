import Precis.Proofs.Packing.Batches

/-!
# Packing is optimal

No way of cutting the items into segments that may be requests has fewer segments than `pack` has
batches: `length_pack_le`. The greedy cut is compared with itself: when it is further into its
segment at some item, it has at least as many segments left, and at most one more
(`length_cutFrom_le`). So each segment of another cut costs the greedy one at most one segment
(`length_cut_flatten_le`).
-/

namespace Precis.Packer

variable {p : Packer}

theorem outputEstimate_mono (l : Limits) {m n : Nat} (h : m ≤ n) :
    l.outputEstimate m ≤ l.outputEstimate n := by
  have hmul : m * l.tokensPerSummary.toNat ≤ n * l.tokensPerSummary.toNat :=
    Nat.mul_le_mul_right _ h
  rw [UInt64.le_iff_toNat_le, Limits.outputEstimate, Limits.outputEstimate, Word.toNat_addSat,
    Word.toNat_addSat, Word.toNat_clamp64, Word.toNat_clamp64]
  omega

/-- Whatever fits still fits when items are taken out of it. -/
theorem Fits.of_sublist {items others : List Item} (h : p.Fits others)
    (hsub : items.Sublist others) : p.Fits items where
  load_le := Nat.le_trans (load_le_of_sublist hsub) h.load_le
  length_le := Nat.le_trans hsub.length_le h.length_le
  output := by
    intro hout
    have hle := outputEstimate_mono p.limits hsub.length_le
    have hmore := h.output hout
    rw [Limits.exceedsOutput, decide_eq_false_iff_not, UInt64.not_lt] at hmore ⊢
    exact UInt64.le_trans hle hmore

theorem length_closed (items : List Item) :
    (closed items).length = if items = [] then 0 else 1 := by
  cases items <;> simp [closed]

/-- One item that is not oversized and follows a segment either joins it or begins the next. -/
theorem length_cutFrom_cons (hmax : p.limits.maxTokens.toNat < Word.size64 - 1)
    {begun : List Item} (h : begun = [] ∨ p.load begun ≤ p.limits.maxTokens.toNat) {item : Item}
    (hsmall : p.isOversized (p.weight item) = false) (rest : List Item) :
    (p.Fits (begun ++ [item]) ∧
        (p.cutFrom begun (item :: rest)).length = (p.cutFrom (begun ++ [item]) rest).length) ∨
      (¬ p.Fits (begun ++ [item]) ∧
        (p.cutFrom begun (item :: rest)).length
          = (closed begun).length + (p.cutFrom [item] rest).length) := by
  have hroom := hasNoRoom_filling hmax h item
  rw [cutFrom, if_neg (by simp [hsmall])]
  by_cases hfits : p.Fits (begun ++ [item])
  · left
    rw [if_neg (by simp [hroom.2 hfits])]
    exact ⟨hfits, rfl⟩
  · right
    have hfull : p.hasNoRoom (p.filling begun) (p.weight item) = true := by
      rw [← Bool.not_eq_false, hroom]
      exact hfits
    rw [if_pos hfull, List.length_append]
    exact ⟨hfits, rfl⟩

/-- Of two cuts of the same items, the one that is further into its segment has at least as many
segments left as the other, and at most one more. -/
theorem length_cutFrom_le (hmax : p.limits.maxTokens.toNat < Word.size64 - 1)
    (items : List Item) {less more : List Item} (hsuffix : less <:+ more)
    (hload : more = [] ∨ p.load more ≤ p.limits.maxTokens.toNat) :
    (p.cutFrom less items).length ≤ (p.cutFrom more items).length ∧
      (p.cutFrom more items).length ≤ (p.cutFrom less items).length + 1 := by
  have hnil : more = [] → less = [] := by
    rintro rfl
    exact List.suffix_nil.1 hsuffix
  have hclosed : (closed less).length ≤ (closed more).length ∧ (closed more).length ≤ 1 := by
    rw [length_closed, length_closed]
    split <;> split <;> simp_all
  induction items generalizing less more with
  | nil =>
    rw [cutFrom, cutFrom]
    omega
  | cons item rest ih =>
    by_cases hbig : p.isOversized (p.weight item) = true
    · rw [cutFrom, cutFrom, if_pos hbig, if_pos hbig, List.length_append, List.length_append]
      omega
    have hsmall : p.isOversized (p.weight item) = false := by simpa using hbig
    have hone : p.load [item] ≤ p.limits.maxTokens.toNat := by
      rw [isOversized_iff hmax] at hbig
      omega
    have hloadLess : less = [] ∨ p.load less ≤ p.limits.maxTokens.toNat :=
      hload.imp hnil (Nat.le_trans (load_le_of_sublist hsuffix.sublist))
    -- the induction hypothesis, for two segments that both hold the item
    have next : ∀ {less more : List Item}, less <:+ more → less ≠ [] →
        p.load more ≤ p.limits.maxTokens.toNat →
        (p.cutFrom less rest).length ≤ (p.cutFrom more rest).length ∧
          (p.cutFrom more rest).length ≤ (p.cutFrom less rest).length + 1 := by
      intro less more hs hne hl
      have hne' : more ≠ [] := by
        rintro rfl
        exact hne (List.suffix_nil.1 hs)
      refine ih hs (Or.inr hl) (fun h => absurd h hne') ?_
      rw [length_closed, length_closed, if_neg hne, if_neg hne']
      omega
    have hboth : less ++ [item] <:+ more ++ [item] := by
      obtain ⟨front, hfront⟩ := hsuffix
      exact ⟨front, by rw [← hfront, List.append_assoc]⟩
    rcases length_cutFrom_cons hmax hload hsmall rest with ⟨hfits, hmore⟩ | ⟨hfull, hmore⟩
    · -- the item joins both segments
      rcases length_cutFrom_cons hmax hloadLess hsmall rest with ⟨_, hless⟩ | ⟨hfull, _⟩
      · have h := next hboth (by simp) hfits.load_le
        omega
      · exact absurd (hfits.of_sublist hboth.sublist) hfull
    rcases length_cutFrom_cons hmax hloadLess hsmall rest with ⟨hfits, hless⟩ | ⟨_, hless⟩
    · -- the item joins the shorter segment only, so the longer one holds something
      have hne : more ≠ [] := by
        rintro rfl
        rw [hnil rfl] at hfits
        exact hfull hfits
      have hlast : [item] <:+ less ++ [item] := List.suffix_append less [item]
      have h := next hlast (by simp) hfits.load_le
      rw [length_closed, if_neg hne] at hmore
      omega
    · -- the item begins a segment in both
      omega

/-- A segment that fits is not cut. -/
theorem cutFrom_append (hmax : p.limits.maxTokens.toNat < Word.size64 - 1)
    (begun segment rest : List Item) (h : p.Fits (begun ++ segment)) :
    p.cutFrom begun (segment ++ rest) = p.cutFrom (begun ++ segment) rest := by
  induction segment generalizing begun with
  | nil => rw [List.append_nil, List.nil_append]
  | cons item more ih =>
    have hassoc : begun ++ item :: more = (begun ++ [item]) ++ more := by simp
    have hload : p.load begun ≤ p.limits.maxTokens.toNat :=
      (h.of_sublist (List.sublist_append_left begun _)).load_le
    have hfits : p.Fits (begun ++ [item]) := by
      rw [hassoc] at h
      exact h.of_sublist (List.sublist_append_left _ more)
    have hsmall : p.isOversized (p.weight item) = false :=
      small_of_load_le hmax h.load_le item (by simp)
    rw [List.cons_append, cutFrom, if_neg (by simp [hsmall]),
      if_neg (by simp [(hasNoRoom_filling hmax (Or.inr hload) item).2 hfits]), hassoc]
    exact ih (begun ++ [item]) (hassoc ▸ h)

/-- A segment that may be a request costs the cut at most one segment. -/
theorem length_cut_append (hmax : p.limits.maxTokens.toNat < Word.size64 - 1)
    {segment : List Item} (h : p.Allowed segment) (rest : List Item) :
    (p.cut (segment ++ rest)).length ≤ (p.cut rest).length + 1 := by
  have alone : ∀ segment, p.load segment ≤ p.limits.maxTokens.toNat →
      (p.cutFrom segment rest).length ≤ (p.cut rest).length + 1 := fun segment hload =>
    (length_cutFrom_le hmax rest List.nil_suffix (Or.inr hload)).2
  rcases h with hone | hfits
  · obtain ⟨item, rfl⟩ := List.length_eq_one_iff.1 hone
    rw [List.singleton_append]
    by_cases hbig : p.isOversized (p.weight item) = true
    · rw [cut, cutFrom, if_pos hbig]
      simp [closed, cut]
    · have hload : p.load [item] ≤ p.limits.maxTokens.toNat := by
        rw [isOversized_iff hmax] at hbig
        omega
      have hsmall : p.isOversized (p.weight item) = false := by simpa using hbig
      have h := alone [item] hload
      have hbegun : ([] : List Item) = [] ∨ p.load [] ≤ p.limits.maxTokens.toNat := Or.inl rfl
      rcases length_cutFrom_cons hmax hbegun hsmall rest with ⟨_, hlength⟩ | ⟨_, hlength⟩
      · rw [cut, hlength]
        exact h
      · rw [cut, hlength, length_closed, if_pos rfl, Nat.zero_add]
        exact h
  · rw [cut, cutFrom_append hmax [] segment rest hfits]
    exact alone segment hfits.load_le

/-- The cut is no longer than any list of segments that may be requests. -/
theorem length_cut_flatten_le (hmax : p.limits.maxTokens.toNat < Word.size64 - 1)
    {segments : List (List Item)} (h : ∀ segment ∈ segments, p.Allowed segment) :
    (p.cut segments.flatten).length ≤ segments.length := by
  induction segments with
  | nil => simp [cut, cutFrom, closed]
  | cons segment rest ih =>
    have hrest := ih fun s hs => h s (List.mem_cons_of_mem _ hs)
    have hfirst := length_cut_append hmax (h segment List.mem_cons_self) rest.flatten
    rw [List.flatten_cons, List.length_cons]
    omega

/-- Packing gives batches unless a sum of tokens that an item brings with it is too large for a
word, and no more of them than there are segments in any other way of cutting the items into
requests. -/
theorem length_pack_le (p : Packer) (hmax : p.limits.maxTokens.toNat < Word.size64 - 1)
    (segments : List (List Item)) (h : ∀ segment ∈ segments, p.Allowed segment) :
    ((p.pack segments.flatten).isSome = true ↔ ∀ item ∈ segments.flatten, p.Summable item) ∧
      ∀ batches, p.pack segments.flatten = some batches → batches.length ≤ segments.length := by
  refine ⟨isSome_pack hmax segments.flatten, ?_⟩
  intro batches hbatches
  rw [length_pack hbatches]
  exact length_cut_flatten_le hmax h

theorem length_pack_le_tight :
    tight.limits.maxTokens.toNat < Word.size64 - 1 ∧
      (∀ segment ∈ [[post 1 4], [post 2 9], [post 3 3], [post 4 5, post 5 1]],
        tight.Allowed segment) ∧
      ∃ batches, tight.pack posts = some batches ∧ batches.length ≤ 4 := by
  have hmax : tight.limits.maxTokens.toNat < Word.size64 - 1 := by decide
  have hallowed : ∀ segment ∈ [[post 1 4], [post 2 9], [post 3 3], [post 4 5, post 5 1]],
      tight.Allowed segment := by
    intro segment hs
    simp only [List.mem_cons, List.not_mem_nil, or_false] at hs
    rcases hs with rfl | rfl | rfl | rfl
    · exact Or.inl rfl
    · exact Or.inl rfl
    · exact Or.inl rfl
    · exact Or.inr ⟨by decide, by decide, by decide⟩
  have hsome : (tight.pack posts).isSome = true := by decide +kernel
  obtain ⟨batches, hbatches⟩ := Option.isSome_iff_exists.1 hsome
  exact ⟨hmax, hallowed, batches, hbatches,
    (length_pack_le tight hmax _ hallowed).2 batches hbatches⟩

end Precis.Packer
