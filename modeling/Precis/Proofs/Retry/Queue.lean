import Precis.Retry.Queue

/-!
# What the queue holds after a page

Successes take their entries out (`get?_recordSuccesses`). A failure changes the entry of its own
item only, and when no item fails twice each entry follows from the one before:
`get?_recordFailures`. With retries in their bounds, one retry more is counted until none is left
(`entry?_of`).
-/

namespace Precis

open Time

/-- Entries stand under their own items, and no retry was made beyond the last one. -/
structure RetryStore.Valid (store : RetryStore) : Prop where
  keyed : ∀ id e, store.get? id = some e → e.item = id
  bounded : ∀ id e, store.get? id = some e →
    e.retries ≤ e.maxRetries ∧ e.maxRetries.toNat < 4294967295

/-- It is enough to look at what is listed. -/
theorem RetryStore.valid_of_entries {store : RetryStore}
    (h : ∀ x ∈ store.entries, x.2.item = x.1 ∧ x.2.retries ≤ x.2.maxRetries ∧
      x.2.maxRetries.toNat < 4294967295) : store.Valid := by
  have hmem : ∀ id e, store.get? id = some e → (id, e) ∈ store.entries := by
    intro id e he
    obtain ⟨⟨k, e'⟩, hfound, rfl⟩ := Option.map_eq_some_iff.1 he
    have hk := List.find?_some hfound
    rw [decide_eq_true_iff] at hk
    subst hk
    exact List.mem_of_find?_eq_some hfound
  exact ⟨fun id e he => (h _ (hmem id e he)).1, fun id e he => (h _ (hmem id e he)).2⟩

/-- The entry of an item after a failure with this note, given the entry before it. -/
def RetrySettings.entryAfter (s : RetrySettings) (now : Timestamp) (id : Int64) (retryable : Bool)
    (note : FailureNote) (before : Option RetryEntry) : Option RetryEntry :=
  if retryable then
    match before with
    | none => some (RetryEntry.new id note.message note.kind s.maxRetries s.baseSpan now)
    | some e =>
      if e.retries < e.maxRetries then
        some ((e.retried s.baseSpan now).withCause note.message note.kind)
      else none
  else none

theorem RetryEntry.toNat_retries_retried {e : RetryEntry} (h : e.retries.toNat < 4294967295)
    (base : Nat) (now : Timestamp) :
    (e.retried base now).retries.toNat = e.retries.toNat + 1 := by
  rw [retried, Word.toNat_clamp32]
  omega

namespace Verdict

variable {s : RetrySettings} {now : Timestamp} {f : Failure} {before : Option RetryEntry}

/-- The entry after a failure: the retries run out when as many were made as are allowed. -/
theorem entry?_of (hbefore : ∀ e, before = some e →
    e.retries ≤ e.maxRetries ∧ e.maxRetries.toNat < 4294967295) :
    Verdict.entry? (Verdict.of s now f before)
      = s.entryAfter now f.item.id f.retryable f.note before := by
  unfold Verdict.of RetrySettings.entryAfter
  by_cases hretry : f.retryable = true
  · rw [if_pos hretry, if_pos hretry]
    cases before with
    | none => rfl
    | some e =>
      obtain ⟨hle, hmax⟩ := hbefore e rfl
      rw [UInt32.le_iff_toNat_le] at hle
      have hnext := RetryEntry.toNat_retries_retried (e := e) (by omega) s.baseSpan now
      rw [ofRetryable]
      dsimp only
      -- a retry is left exactly when counting it does not go beyond the last one
      by_cases hleft : e.retries < e.maxRetries
      · rw [if_pos hleft, if_neg]
        · rfl
        · rw [UInt32.lt_iff_toNat_lt] at hleft ⊢
          show ¬ e.maxRetries.toNat < (e.retried s.baseSpan now).retries.toNat
          omega
      · rw [if_neg hleft, if_pos]
        · rfl
        · rw [UInt32.lt_iff_toNat_lt] at hleft ⊢
          show e.maxRetries.toNat < (e.retried s.baseSpan now).retries.toNat
          omega
  · rw [if_neg hretry, if_neg hretry]
    rfl

/-- An entry that is stored is the failed item's. -/
theorem item_of_entry?_eq_some {entry : RetryEntry}
    (hkeyed : ∀ e, before = some e → e.item = f.item.id)
    (h : Verdict.entry? (Verdict.of s now f before) = some entry) : entry.item = f.item.id := by
  rw [Verdict.of] at h
  split at h
  · cases before with
    | none =>
      cases h
      rfl
    | some e =>
      rw [ofRetryable] at h
      split at h
      · cases h
      · cases h
        exact hkeyed e rfl
  · cases h

theorem get?_apply {v : Verdict} {id : Int64} (hitem : ∀ e, v.entry? = some e → e.item = id)
    (store : RetryStore) (k : Int64) :
    (v.apply id store).get? k = if id = k then v.entry? else store.get? k := by
  rw [apply]
  cases hentry : v.entry? with
  | none => exact Table.get?_erase store id k
  | some entry =>
    dsimp only
    rw [hitem entry hentry, Table.get?_insert]

end Verdict

namespace RetryStore

/-- What a fold counts has no part in what it stores. -/
theorem foldl_snd (f : α × β → γ → α) (g : β → γ → β) (xs : List γ) (acc : α × β) :
    (xs.foldl (fun acc x => (f acc x, g acc.2 x)) acc).2 = xs.foldl g acc.2 := by
  induction xs generalizing acc with
  | nil => rfl
  | cons x rest ih => exact ih _

theorem recordSuccesses_eq (store : RetryStore) (ids : List Int64) :
    (recordSuccesses store ids).2 = ids.foldl Table.erase store :=
  foldl_snd _ Table.erase ids (0, store)

theorem recordFailures_eq (s : RetrySettings) (now : Timestamp) (store : RetryStore)
    (failures : List Failure) :
    (recordFailures s now store failures).2
      = failures.foldl (fun store f => (recordFailure s now store f).2) store :=
  foldl_snd (fun (acc : RetryReport × RetryStore) f => acc.1.add (recordFailure s now acc.2 f).1)
    (fun store f => (recordFailure s now store f).2) failures ({}, store)

theorem recordSuccesses_cons (store : RetryStore) (id : Int64) (ids : List Int64) :
    (recordSuccesses store (id :: ids)).2 = (recordSuccesses (store.erase id) ids).2 := by
  rw [recordSuccesses_eq, recordSuccesses_eq, List.foldl_cons]

/-- Items with a summary have no entry, and other entries stay. -/
theorem get?_recordSuccesses (store : RetryStore) (ids : List Int64) (k : Int64) :
    (recordSuccesses store ids).2.get? k = if k ∈ ids then none else store.get? k := by
  induction ids generalizing store with
  | nil => rfl
  | cons id rest ih =>
    rw [recordSuccesses_cons, ih, Table.get?_erase]
    by_cases hk : id = k
    · subst hk
      simp
    · have hk' : k ≠ id := fun h => hk h.symm
      simp only [List.mem_cons, hk', false_or, if_neg hk]

theorem recordFailures_cons (s : RetrySettings) (now : Timestamp) (store : RetryStore) (f : Failure)
    (rest : List Failure) :
    (recordFailures s now store (f :: rest)).2
      = (recordFailures s now (recordFailure s now store f).2 rest).2 := by
  rw [recordFailures_eq, recordFailures_eq, List.foldl_cons]

theorem get?_recordFailure (s : RetrySettings) (now : Timestamp) {store : RetryStore} {f : Failure}
    (hkeyed : ∀ e, store.get? f.item.id = some e → e.item = f.item.id) (k : Int64) :
    (recordFailure s now store f).2.get? k =
      if f.item.id = k then Verdict.entry? (Verdict.of s now f (store.get? f.item.id))
      else store.get? k :=
  Verdict.get?_apply (fun _ h => Verdict.item_of_entry?_eq_some hkeyed h) store k

/-- Failures of distinct items each change the entry of their own item. -/
theorem get?_recordFailures (s : RetrySettings) (now : Timestamp) (store : RetryStore)
    {failures : List Failure} (hids : (failures.map (·.item.id)).Nodup)
    (hkeyed : ∀ f ∈ failures, ∀ e, store.get? f.item.id = some e → e.item = f.item.id) :
    (∀ f ∈ failures, (recordFailures s now store failures).2.get? f.item.id =
        Verdict.entry? (Verdict.of s now f (store.get? f.item.id))) ∧
      ∀ k, k ∉ failures.map (·.item.id) →
        (recordFailures s now store failures).2.get? k = store.get? k := by
  induction failures generalizing store with
  | nil =>
    refine ⟨?_, fun k _ => rfl⟩
    intro f hf
    cases hf
  | cons f rest ih =>
    rw [List.map_cons, List.nodup_cons] at hids
    have hfirst := get?_recordFailure s now (hkeyed f List.mem_cons_self)
    -- the entries of the other items are as before
    have hother : ∀ g ∈ rest, (recordFailure s now store f).2.get? g.item.id
        = store.get? g.item.id := by
      intro g hg
      rw [hfirst, if_neg]
      intro heq
      exact hids.1 (heq ▸ List.mem_map_of_mem hg)
    obtain ⟨hrest, houtside⟩ := ih (recordFailure s now store f).2 hids.2 (by
      intro g hg e he
      rw [hother g hg] at he
      exact hkeyed g (List.mem_cons_of_mem f hg) e he)
    refine ⟨?_, ?_⟩
    · intro g hg
      rw [recordFailures_cons]
      rcases List.mem_cons.1 hg with rfl | hg
      · rw [houtside _ hids.1, hfirst, if_pos rfl]
      · rw [hrest g hg, hother g hg]
    · intro k hk
      rw [List.map_cons, List.mem_cons, not_or] at hk
      rw [recordFailures_cons, houtside k hk.2, hfirst, if_neg fun heq => hk.1 heq.symm]

end RetryStore

end Precis
