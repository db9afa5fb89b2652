import Precis.Table

/-!
# Ordered tables

The keys of a table that was built by insertions and deletions ascend strictly (`Ordered`). So the
look-up finds just the entries that are listed (`Ordered.get?_eq_some_iff`), a deletion takes out
one entry or none (`Ordered.size_erase`), and tables that hold the same are the same
(`Ordered.eq_of_get?`).
-/

namespace Precis.Table

variable {κ α : Type} [LT κ] {t : Table κ α} {k : κ} {v : α}

/-- The keys ascend strictly. -/
def Ordered (t : Table κ α) : Prop := t.entries.Pairwise fun a b => a.1 < b.1

theorem ordered_empty : (empty : Table κ α).Ordered := List.Pairwise.nil

variable [DecidableEq κ]

theorem Ordered.erase (h : t.Ordered) (k : κ) : (t.erase k).Ordered := List.Pairwise.filter _ h

section

variable [LE κ] [Std.LawfulOrderLT κ]

/-- What is looked up is what is listed. -/
theorem Ordered.get?_eq_some_iff (h : t.Ordered) : t.get? k = some v ↔ (k, v) ∈ t.entries := by
  obtain ⟨es⟩ := t
  have hes : es.Pairwise fun a b => a.1 < b.1 := h
  clear h
  show (es.find? fun e => e.1 = k).map (·.2) = some v ↔ (k, v) ∈ es
  induction es with
  | nil => simp
  | cons first rest ih =>
    obtain ⟨hfirst, hrest⟩ := List.pairwise_cons.1 hes
    rw [List.find?_cons, List.mem_cons]
    by_cases hk : first.1 = k
    · -- no later entry has the key of the first one
      have hother : (k, v) ∉ rest := by
        intro hmem
        have hlt : first.1 < k := hfirst _ hmem
        rw [hk] at hlt
        exact Std.lt_irrefl hlt
      simp only [hk, decide_true, Option.map_some, Option.some_inj, hother, or_false]
      constructor
      · rintro rfl
        rw [← hk]
      · intro heq
        rw [← heq]
    · have hne : (k, v) ≠ first := by
        rintro rfl
        exact hk rfl
      simp only [hk, decide_false, hne, false_or]
      exact ih hrest

theorem Ordered.mem_values_iff (h : t.Ordered) : v ∈ t.values ↔ ∃ k, t.get? k = some v := by
  rw [values, List.mem_map]
  constructor
  · rintro ⟨⟨k, _⟩, hmem, rfl⟩
    exact ⟨k, h.get?_eq_some_iff.2 hmem⟩
  · rintro ⟨k, hget⟩
    exact ⟨(k, v), h.get?_eq_some_iff.1 hget, rfl⟩

omit [DecidableEq κ] in
/-- No key is listed twice. -/
theorem Ordered.nodup_keys (h : t.Ordered) : (t.entries.map (·.1)).Nodup := by
  refine List.pairwise_map.2 (List.Pairwise.imp ?_ h)
  intro a b hlt heq
  rw [heq] at hlt
  exact Std.lt_irrefl hlt

/-- The keys listed are those that have a value. -/
theorem Ordered.mem_keys_iff (h : t.Ordered) : k ∈ t.entries.map (·.1) ↔ (t.get? k).isSome := by
  rw [List.mem_map, Option.isSome_iff_exists]
  constructor
  · rintro ⟨e, hmem, rfl⟩
    exact ⟨e.2, h.get?_eq_some_iff.2 hmem⟩
  · rintro ⟨v, hget⟩
    exact ⟨(k, v), h.get?_eq_some_iff.1 hget, rfl⟩

/-- A deletion takes out the entry of its key, if there is one. -/
theorem Ordered.size_erase (h : t.Ordered) (k : κ) :
    (t.erase k).size + (if t.contains k then 1 else 0) = t.size := by
  obtain ⟨es⟩ := t
  have hes : es.Pairwise fun a b => a.1 < b.1 := h
  clear h
  show (es.filter fun e => e.1 ≠ k).length
    + (if ((es.find? fun e => e.1 = k).map (·.2)).isSome then 1 else 0) = es.length
  induction es with
  | nil => rfl
  | cons first rest ih =>
    obtain ⟨hfirst, hrest⟩ := List.pairwise_cons.1 hes
    rw [List.find?_cons]
    by_cases hk : first.1 = k
    · have hothers : rest.filter (fun e => e.1 ≠ k) = rest := by
        refine List.filter_eq_self.2 ?_
        intro e he
        have hlt := hfirst e he
        rw [hk] at hlt
        refine decide_eq_true ?_
        intro heq
        rw [heq] at hlt
        exact Std.lt_irrefl hlt
      rw [List.filter_cons_of_neg (by simpa using hk), hothers]
      simp [hk]
    · rw [List.filter_cons_of_pos (by simpa using hk), List.length_cons, List.length_cons,
        ← ih hrest]
      simp only [hk, decide_false]
      omega

end

/-! ## Insertions -/

variable [DecidableLT κ]

theorem mem_of_mem_insertEntry {es : List (κ × α)} {e : κ × α} (h : e ∈ insertEntry k v es) :
    e = (k, v) ∨ e ∈ es := by
  induction es with
  | nil => exact Or.inl (List.mem_singleton.1 h)
  | cons first rest ih =>
    rw [insertEntry] at h
    split at h
    · rcases List.mem_cons.1 h with h | h
      · exact Or.inl h
      · exact Or.inr (List.mem_cons_of_mem _ h)
    · split at h
      · exact List.mem_cons.1 h
      · rcases List.mem_cons.1 h with h | h
        · exact Or.inr (h ▸ List.mem_cons_self)
        · rcases ih h with h | h
          · exact Or.inl h
          · exact Or.inr (List.mem_cons_of_mem _ h)

theorem Ordered.insert [LE κ] [Std.LawfulOrderLT κ] [Std.IsLinearOrder κ] (h : t.Ordered) (k : κ)
    (v : α) : (t.insert k v).Ordered := by
  obtain ⟨es⟩ := t
  show (insertEntry k v es).Pairwise fun a b => a.1 < b.1
  have hes : es.Pairwise fun a b => a.1 < b.1 := h
  clear h
  induction es with
  | nil => exact List.pairwise_singleton _ _
  | cons first rest ih =>
    obtain ⟨hfirst, hrest⟩ := List.pairwise_cons.1 hes
    rw [insertEntry]
    split
    · rename_i hk
      subst hk
      exact List.pairwise_cons.2 ⟨hfirst, hrest⟩
    · rename_i hk
      split
      · rename_i hlt
        refine List.pairwise_cons.2 ⟨?_, hes⟩
        rw [List.forall_mem_cons]
        exact ⟨hlt, fun e he => Std.lt_trans hlt (hfirst e he)⟩
      · -- the key goes somewhere behind the first one
        rename_i hlt
        refine List.pairwise_cons.2 ⟨?_, ih hrest⟩
        intro e he
        rcases mem_of_mem_insertEntry he with rfl | he
        · rcases Std.lt_trichotomy first.1 k with h | h | h
          · exact h
          · exact absurd h hk
          · exact absurd h hlt
        · exact hfirst e he

end Precis.Table

/-! ## Equal tables -/

namespace Precis.Table

variable {κ α β : Type}

/-- The table with each value changed. -/
def map (f : α → β) (t : Table κ α) : Table κ β := ⟨t.entries.map fun e => (e.1, f e.2)⟩

theorem get?_map [DecidableEq κ] (f : α → β) (t : Table κ α) (k : κ) :
    (t.map f).get? k = (t.get? k).map f := by
  rw [get?, get?, map, List.find?_map, Option.map_map, Option.map_map]
  rfl

variable [LT κ] {t t' : Table κ α}

theorem Ordered.map (h : t.Ordered) (f : α → β) : (t.map f).Ordered := List.pairwise_map.2 h

/-- Tables that hold the same under each key are the same. -/
theorem Ordered.eq_of_get? [DecidableEq κ] [LE κ] [Std.LawfulOrderLT κ] [Std.IsLinearOrder κ]
    (h : t.Ordered) (h' : t'.Ordered) (hget : ∀ k, t.get? k = t'.get? k) : t = t' := by
  have hirrefl : ∀ a b : κ × α, a.1 < b.1 → a ≠ b := by
    rintro a _ hlt rfl
    exact Std.lt_irrefl hlt
  have hmem : ∀ e, e ∈ t.entries ↔ e ∈ t'.entries := by
    intro e
    rw [← h.get?_eq_some_iff, ← h'.get?_eq_some_iff, hget]
  have hperm : t.entries.Perm t'.entries :=
    (List.perm_ext_iff_of_nodup (List.Pairwise.imp (hirrefl _ _) h)
      (List.Pairwise.imp (hirrefl _ _) h')).2 hmem
  have hentries : t.entries = t'.entries := by
    refine hperm.eq_of_pairwise ?_ h h'
    intro a b _ _ hab hba
    exact absurd (Std.lt_trans hab hba) Std.lt_irrefl
  cases t
  cases t'
  exact congrArg mk hentries

end Precis.Table
