import Precis.Proofs.Retry.Streak

/-!
# Which entries come due

An entry is kept as long as there are no more retries made than are allowed, but it comes due only
while there are fewer (`due_iff_retry_left`). So the last failure in a row for which an entry is
kept leaves it stranded: it is reported as put off once more, and no time ever brings it back
(`rescheduled_never_due`). It leaves the queue by a further failure or a summary only.
-/

namespace Precis

open Time

theorem RetryEntry.isDue_iff (e : RetryEntry) (time : Timestamp) :
    e.isDue time = true ↔ e.retries < e.maxRetries ∧ e.next < time := by
  rw [isDue, Bool.and_eq_true, decide_eq_true_iff, decide_eq_true_iff]

/-- Entries have as many retries as the settings allow when they are made, and keep them. -/
theorem RetrySettings.maxRetries_of_entryOn {s : RetrySettings} {before : Option RetryEntry}
    (hbefore : ∀ e, before = some e → e.maxRetries = s.maxRetries) (event : RetryEvent) :
    ∀ e, s.entryOn before event = some e → e.maxRetries = s.maxRetries := by
  intro e he
  cases event with
  | summarized => cases he
  | failed now f =>
    rw [entryOn, Verdict.of] at he
    split at he
    · cases before with
      | none =>
        cases he
        rfl
      | some old =>
        rw [Verdict.ofRetryable] at he
        -- an entry that was there goes on with the retries that it was made with
        split at he
        · cases he
        · cases he
          exact hbefore old rfl
    · cases he

namespace RetryStore

variable {s : RetrySettings} {store : RetryStore} {id : Int64} {e : RetryEntry}

theorem maxRetries_of_get?_after {history : List RetryCall}
    (h : (after s history).get? id = some e) : e.maxRetries = s.maxRetries := by
  rw [get?_after] at h
  refine List.foldlRecOn (eventsOf id history) s.entryOn
    (motive := fun entry => ∀ e, entry = some e → e.maxRetries = s.maxRetries) ?_ ?_ e h
  · intro e he
    cases he
  · intro entry hentry event _
    exact RetrySettings.maxRetries_of_entryOn hentry event

/-- Of what is listed, that comes due which has a retry left and whose time has passed. -/
theorem Tidy.mem_due_iff (h : store.Tidy) (time : Timestamp) :
    e ∈ store.due time ↔
      store.get? e.item = some e ∧ e.retries < e.maxRetries ∧ e.next < time := by
  rw [due, List.mem_mergeSort, List.mem_filter, h.ordered.mem_values_iff, RetryEntry.isDue_iff]
  refine and_congr_left fun _ => ?_
  constructor
  · -- an entry is listed under its own item
    rintro ⟨id, hid⟩
    rw [h.keyed id e hid]
    exact hid
  · intro hitem
    exact ⟨e.item, hitem⟩

/-- Whatever the settings and the history, an entry that is kept comes due when its time has passed
if it has a retry left, and never else. It has none left just when the item has failed as often in a
row as it may: there are as many retries as are allowed, after the first failure. -/
theorem due_iff_retry_left {history : List RetryCall} (h : (after s history).get? id = some e) :
    (∀ time, e ∈ (after s history).due time ↔ e.retries < s.maxRetries ∧ e.next < time) ∧
      (s.maxRetries.toNat < 4294967295 →
        (e.retries < s.maxRetries ↔
          (Streak.of s.maxRetries (eventsOf id history)).length ≤ s.maxRetries.toNat)) := by
  have htidy := tidy_after s history
  have hitem : (after s history).get? e.item = some e := by
    rw [htidy.keyed id e h]
    exact h
  refine ⟨?_, ?_⟩
  · intro time
    rw [htidy.mem_due_iff, maxRetries_of_get?_after h]
    exact and_iff_right hitem
  · intro hmax
    -- the retries of an entry are counted by the failures in a row
    obtain ⟨hlength, hentry⟩ := get?_after_eq hmax history id
    obtain ⟨hretries, _⟩ := Streak.retries_of_entryOf? (by omega) (hentry.symm.trans h)
    rw [UInt32.lt_iff_toNat_lt]
    omega

open Interleaved in
/-- With one retry the first failure comes due, and the second one in a row does not. -/
theorem due_iff_retry_left_once :
    let slow := failure 1 .timeout "slow"
    let first : List RetryCall := [.failed (second 0) [slow]]
    let both : List RetryCall := first ++ [.failed (second 5) [slow]]
    settings.maxRetries.toNat < 4294967295 ∧
      (∃ e, (after settings first).get? 1 = some e ∧ e.next = second 1 ∧
        e ∈ (after settings first).due (second 2) ∧ e ∉ (after settings first).due (second 1) ∧
        (Streak.of settings.maxRetries (eventsOf 1 first)).length ≤ settings.maxRetries.toNat) ∧
      ∃ e, (after settings both).get? 1 = some e ∧ e.next = second 7 ∧
        e ∉ (after settings both).due (second 8) ∧
        ¬ (Streak.of settings.maxRetries (eventsOf 1 both)).length ≤ settings.maxRetries.toNat := by
  intro slow first both
  let new : RetryEntry :=
    { item := 1, reason := "slow", kind := .timeout, retries := 0, next := second 1,
      maxRetries := 1, created := second 0 }
  let last : RetryEntry := { new with retries := 1, next := second 7, last := some (second 5) }
  have hmax : settings.maxRetries.toNat < 4294967295 := by decide
  have hnew : (after settings first).get? 1 = some new := by decide +kernel
  have hlast : (after settings both).get? 1 = some last := by decide +kernel
  obtain ⟨hdue, hstreak⟩ := due_iff_retry_left hnew
  obtain ⟨hdue', hstreak'⟩ := due_iff_retry_left hlast
  refine ⟨hmax, ⟨new, hnew, rfl, ?_, ?_, (hstreak hmax).1 (by decide)⟩,
    last, hlast, rfl, ?_, mt (hstreak' hmax).2 (by decide)⟩
  · rw [hdue]
    decide +kernel
  · rw [hdue]
    decide +kernel
  · rw [hdue']
    decide +kernel

open Interleaved in
/-- An item that fails twice in a row with one retry is reported as put off once more, and its entry
is kept; but no time brings it back. -/
theorem rescheduled_never_due :
    let slow := failure 1 .timeout "slow"
    let again :=
      (after settings [.failed (second 0) [slow]]).recordFailures settings (second 5) [slow]
    again.1 = { rescheduled := 1 } ∧
      (∃ e, again.2.get? 1 = some e ∧ e.next = second 7 ∧ e.isExhausted = true) ∧
      ∀ time, again.2.due time = [] := by
  intro slow again
  let last : RetryEntry :=
    { item := 1, reason := "slow", kind := .timeout, retries := 1, next := second 7,
      maxRetries := 1, created := second 0, last := some (second 5) }
  have hvalues : again.2.values = [last] := by decide +kernel
  refine ⟨by decide +kernel, ⟨last, by decide +kernel, rfl, rfl⟩, ?_⟩
  intro time
  have hnever : last.isDue time = false := rfl
  simp [due, hvalues, hnever]

end RetryStore

end Precis
