import Precis.Proofs.Retry.Due
import Precis.Proofs.Source.Order

/-!
# The order in which entries come due

Whatever was put into the store, taken out of it, or told of failures and summaries, the entries
that are due are listed once each, by the time of the next attempt and then by item
(`due_ascending`).

Entries of one store belong to distinct items, so no two of them have the same turn, and a list by
ascending turns is the only one of its entries: `eq_of_perm_of_inTurn`. So it does not matter in
which order a store hands out what it holds.
-/

namespace Precis

open Time

/-! ## Turns -/

namespace RetryEntry

/-- When an entry has its turn among those that are due: by the time of the next attempt, then by
item. -/
def turn (e : RetryEntry) : Position := ⟨e.next, e.item⟩

/-- The entries have their turns one after the other. -/
def InTurn (entries : List RetryEntry) : Prop := entries.Pairwise (·.turn < ·.turn)

theorem InTurn.nodup {entries : List RetryEntry} (h : InTurn entries) : entries.Nodup := by
  refine List.Pairwise.imp ?_ h
  rintro a _ hlt rfl
  exact Position.lt_irrefl _ hlt

/-- There is one way to list entries in turn. -/
theorem eq_of_perm_of_inTurn {entries entries' : List RetryEntry} (hperm : entries.Perm entries')
    (h : InTurn entries) (h' : InTurn entries') : entries = entries' := by
  refine hperm.eq_of_pairwise ?_ h h'
  intro a b _ _ hab hba
  exact absurd hba (Position.lt_asymm hab)

end RetryEntry

namespace RetryStore

open RetryEntry (InTurn)

/-- An entry comes no later when the other one has no earlier turn. -/
theorem dueBefore_iff (a b : RetryEntry) : dueBefore a b = true ↔ ¬ b.turn < a.turn := by
  have hlt : b.turn < a.turn ↔ b.next < a.next ∨ b.next = a.next ∧ b.item < a.item := Iff.rfl
  rw [dueBefore, Bool.or_eq_true, Bool.and_eq_true, decide_eq_true_iff, decide_eq_true_iff,
    decide_eq_true_iff, hlt, Timestamp.lt_iff, Timestamp.lt_iff, Timestamp.ext_iff,
    Timestamp.ext_iff, Int64.le_iff_toInt_le, Int64.lt_iff_toInt_lt]
  omega

theorem dueBefore_trans (a b c : RetryEntry) (hab : dueBefore a b = true)
    (hbc : dueBefore b c = true) : dueBefore a c = true := by
  rw [dueBefore_iff] at hab hbc ⊢
  exact Position.not_lt_trans hab hbc

theorem dueBefore_total (a b : RetryEntry) : (dueBefore a b || dueBefore b a) = true := by
  rw [Bool.or_eq_true, dueBefore_iff, dueBefore_iff]
  by_cases hlt : b.turn < a.turn
  · exact Or.inr (Position.lt_asymm hlt)
  · exact Or.inl hlt

/-- Entries of distinct items have distinct turns, so sorting them leaves no ties. -/
theorem inTurn_mergeSort {entries : List RetryEntry} (hitems : (entries.map (·.item)).Nodup) :
    InTurn (entries.mergeSort dueBefore) := by
  have hsorted := List.pairwise_mergeSort dueBefore_trans dueBefore_total entries
  have hdistinct : ((entries.mergeSort dueBefore).map (·.item)).Nodup :=
    (((List.mergeSort_perm entries dueBefore).map (·.item)).nodup_iff).2 hitems
  refine (hsorted.and (List.pairwise_map.1 hdistinct)).imp ?_
  -- two neighbours are not of one item, so neither turn is the other
  rintro a b ⟨hab, hne⟩
  rw [dueBefore_iff] at hab
  rcases Position.lt_trichotomy a.turn b.turn with hlt | heq | hlt
  · exact hlt
  · exact absurd (congrArg Position.id heq) hne
  · exact absurd hlt hab

/-! ## Any store -/

variable {s : RetrySettings} {store : RetryStore}

/-- No two entries of a store belong to one item. -/
theorem Tidy.nodup_items (h : store.Tidy) : (store.values.map (·.item)).Nodup := by
  -- an entry is kept under the item it is for
  have hkeys : store.values.map (·.item) = store.entries.map (·.1) := by
    rw [Table.values, List.map_map]
    refine List.map_congr_left ?_
    rintro ⟨id, e⟩ hmem
    exact h.keyed id e (h.ordered.get?_eq_some_iff.2 hmem)
  rw [hkeys]
  exact h.ordered.nodup_keys

/-- In whatever order the entries are handed out, those that are due are listed in turn. -/
theorem Tidy.inTurn_of_perm (h : store.Tidy) {listed : List RetryEntry}
    (hlisted : listed.Perm store.values) (now : Timestamp) :
    InTurn ((listed.filter (·.isDue now)).mergeSort dueBefore) := by
  apply inTurn_mergeSort
  have hitems : (listed.map (·.item)).Nodup := ((hlisted.map _).nodup_iff).2 h.nodup_items
  exact hitems.sublist (List.filter_sublist.map _)

theorem Tidy.inTurn_due (h : store.Tidy) (now : Timestamp) : InTurn (store.due now) :=
  h.inTurn_of_perm (List.Perm.refl _) now

/-- The order in which the entries are handed out does not show. -/
theorem Tidy.due_eq_of_perm (h : store.Tidy) {listed : List RetryEntry}
    (hlisted : listed.Perm store.values) (now : Timestamp) :
    (listed.filter (·.isDue now)).mergeSort dueBefore = store.due now := by
  -- both lists are in turn and hold the same entries
  refine RetryEntry.eq_of_perm_of_inTurn ?_ (h.inTurn_of_perm hlisted now) (h.inTurn_due now)
  exact (List.mergeSort_perm _ _).trans
    ((hlisted.filter _).trans (List.mergeSort_perm _ dueBefore).symm)

/-! ## Any history -/

/-- A call that may change the store. -/
inductive Change where
  | upsert (e : RetryEntry)
  | remove (id : Int64)
  | told (call : RetryCall)

/-- The store after a change. -/
def changed (s : RetrySettings) (store : RetryStore) : Change → RetryStore
  | .upsert e => store.insert e.item e
  | .remove id => store.erase id
  | .told call => store.told s call

/-- The store after changes that found it empty. -/
def changedBy (s : RetrySettings) (history : List Change) : RetryStore :=
  history.foldl (changed s) Table.empty

theorem Tidy.upsert (h : store.Tidy) (e : RetryEntry) : Tidy (store.insert e.item e) where
  ordered := h.ordered.insert _ _
  keyed id found hfound := by
    rw [Table.get?_insert] at hfound
    split at hfound
    · -- the entry that was put in, or one that was there
      rename_i hid
      rw [← Option.some.inj hfound]
      exact hid
    · exact h.keyed id found hfound

theorem Tidy.changed (h : store.Tidy) (change : Change) : Tidy (store.changed s change) := by
  cases change with
  | upsert e => exact h.upsert e
  | remove id => exact h.erase id
  | told call => exact h.told call

theorem tidy_changedBy (s : RetrySettings) (history : List Change) : Tidy (changedBy s history) :=
  List.foldlRecOn history (changed s) (motive := Tidy) tidy_empty fun _ h change _ =>
    h.changed change

/-- After each history and at each time, the entries that are listed as due are those that are
stored, have a retry left and a time that has passed; each is listed once, and they stand in
strictly ascending order. This is the list whatever order the store hands out its entries in, and
whatever history left them. -/
theorem due_ascending (s : RetrySettings) (history : List Change) (now : Timestamp) :
    let store := changedBy s history
    (∀ e, (store.due now).count e
      = if store.get? e.item = some e ∧ e.retries < e.maxRetries ∧ e.next < now then 1 else 0) ∧
    (store.due now).Pairwise (fun a b => a.next < b.next ∨ a.next = b.next ∧ a.item < b.item) ∧
    (∀ listed : List RetryEntry, listed.Perm store.values →
      (listed.filter (·.isDue now)).mergeSort dueBefore = store.due now) ∧
    ∀ s' history', (∀ id, (changedBy s' history').get? id = store.get? id) →
      (changedBy s' history').due now = store.due now := by
  intro store
  have htidy : store.Tidy := tidy_changedBy s history
  refine ⟨?_, htidy.inTurn_due now, fun _ hlisted => htidy.due_eq_of_perm hlisted now, ?_⟩
  · intro e
    -- a list without repetitions counts each of its members once
    rw [(htidy.inTurn_due now).nodup.count]
    simp only [htidy.mem_due_iff now, store]
  · intro s' history' hsame
    have hstore : changedBy s' history' = store :=
      (tidy_changedBy s' history').ordered.eq_of_get? htidy.ordered hsame
    rw [hstore]

namespace Reordered

open Interleaved (second)

/-- A post that is tried again at this second. -/
def slow (id : Int64) (n : Nat) : RetryEntry :=
  { item := id, reason := "slow", kind := .timeout, retries := 0, next := second n, maxRetries := 1,
    created := second 0 }

/-- The entry of item 2 is replaced, and one is taken out. -/
def history : List Change :=
  [.upsert (slow 2 9), .upsert (slow 3 4), .upsert (slow 7 1), .upsert (slow 2 4),
    .upsert (slow 1 9), .remove 7]

/-- The same entries in another order. -/
def history' : List Change := [.upsert (slow 1 9), .upsert (slow 2 4), .upsert (slow 3 4)]

end Reordered

open Interleaved (second settings) in
open Reordered in
/-- Items 2 and 3 are due at the same second, and item 1 is not due yet. -/
theorem due_ascending_reordered :
    (∀ id, (changedBy settings history').get? id = (changedBy settings history).get? id) ∧
      (changedBy settings history').due (second 5) = (changedBy settings history).due (second 5) ∧
      ((changedBy settings history).due (second 5)).count (slow 2 4) = 1 ∧
      ((changedBy settings history).due (second 5)).count (slow 3 4) = 1 ∧
      ((changedBy settings history).due (second 5)).count (slow 1 9) = 0 := by
  have hsame : changedBy settings history' = changedBy settings history := by decide +kernel
  have hget : ∀ id, (changedBy settings history').get? id =
      (changedBy settings history).get? id := by
    intro id
    rw [hsame]
  obtain ⟨hcount, _, _, hdue⟩ := due_ascending settings history (second 5)
  refine ⟨hget, hdue settings history' hget, ?_, ?_, ?_⟩
  · rw [hcount]
    decide +kernel
  · rw [hcount]
    decide +kernel
  · rw [hcount]
    decide +kernel

end RetryStore

end Precis
