import Precis.Proofs.Retry.Queue
import Precis.Proofs.Table

/-!
# The queue counts failures in a row

The queue is told of failures and summaries of many items, several times of one item in one call
too. What it stores of an item follows from the events of that item alone (`get?_after`): it counts
how often the item has failed in a row (`Streak`), from the last summary, the last failure for good,
or the last time that the retries ran out. `streaks_counted` puts this together with the counts that
the queue reports.

An event of another item leaves an entry alone, and an event of its own changes it by `entryOn`,
whatever the settings. That these changes count a streak is `Streak.entryOf?_next`, one case for
each kind of event.
-/

namespace Precis

open Time

/-- What the queue is told of an item. -/
inductive RetryEvent where
  | failed (now : Timestamp) (failure : Failure)
  | summarized

/-- A failure is one of the item. -/
def RetryEvent.IsOf (id : Int64) : RetryEvent → Prop
  | failed _ f => f.item.id = id
  | summarized => True

/-- A call that tells the queue of items. -/
inductive RetryCall where
  | failed (now : Timestamp) (failures : List Failure)
  | summarized (ids : List Int64)

namespace RetryCall

/-- What a call tells of an item, in order. -/
def eventsOf (id : Int64) : RetryCall → List RetryEvent
  | failed now failures => (failures.filter (·.item.id = id)).map (.failed now)
  | summarized ids => (ids.filter (· = id)).map fun _ => .summarized

end RetryCall

namespace RetryStore

/-- What a history of calls tells of an item, in order. -/
def eventsOf (id : Int64) (history : List RetryCall) : List RetryEvent :=
  history.flatMap (·.eventsOf id)

/-- The store after a call. -/
def told (s : RetrySettings) (store : RetryStore) : RetryCall → RetryStore
  | .failed now failures => (recordFailures s now store failures).2
  | .summarized ids => (recordSuccesses store ids).2

/-- The store after a history of calls that found it empty. -/
def after (s : RetrySettings) (history : List RetryCall) : RetryStore :=
  history.foldl (told s) Table.empty

end RetryStore

/-- A failure of an item that is worth another attempt. -/
structure Miss where
  time : Timestamp
  reason : String
  kind : FailureKind
  deriving DecidableEq

/-- The failures of an item in a row, the first one first. -/
abbrev Streak := List Miss

namespace Streak

/-- The streak after an event. A summary and a failure for good end it, and so does one failure more
than there are retries after the first one. -/
def next (maxRetries : UInt32) (streak : Streak) : RetryEvent → Streak
  | .summarized => []
  | .failed now f =>
    if f.retryable then
      if streak.length = maxRetries.toNat + 1 then [] else streak ++ [⟨now, f.reason, f.kind⟩]
    else []

/-- The streak after events. -/
def of (maxRetries : UInt32) (events : List RetryEvent) : Streak :=
  events.foldl (next maxRetries) []

/-- The entry of an item that has failed so often in a row: the first failure is no retry, the entry
is as old as it, and reason and schedule are those of the latest one. -/
def entryOf? (s : RetrySettings) (id : Int64) : Streak → Option RetryEntry
  | [] => none
  | first :: more =>
    let latest := more.getLast?.getD first
    let retries := UInt32.ofNat more.length
    some
      { item := id
        reason := latest.reason
        kind := latest.kind
        retries
        next := latest.time.add (s.baseSpan * RetryEntry.factor retries)
        maxRetries := s.maxRetries
        created := first.time
        last := more.getLast?.map (·.time) }

end Streak

/-! ## Events of one item -/

/-- The entry of an item after an event of it. -/
def RetrySettings.entryOn (s : RetrySettings) (before : Option RetryEntry) :
    RetryEvent → Option RetryEntry
  | .failed now f => Verdict.entry? (Verdict.of s now f before)
  | .summarized => none

namespace RetryStore

/-- Entries stand under their own items, by ascending item. -/
structure Tidy (store : RetryStore) : Prop where
  ordered : store.Ordered
  keyed : ∀ id e, store.get? id = some e → e.item = id

variable {s : RetrySettings} {store : RetryStore} {now : Timestamp}

theorem tidy_empty : Tidy Table.empty where
  ordered := Table.ordered_empty
  keyed id e h := by cases h

theorem Tidy.erase (h : store.Tidy) (id : Int64) : Tidy (store.erase id) where
  ordered := h.ordered.erase id
  keyed k e he := by
    rw [Table.get?_erase] at he
    split at he
    · cases he
    · exact h.keyed k e he

theorem Tidy.recordFailure (h : store.Tidy) (f : Failure) :
    Tidy (store.recordFailure s now f).2 where
  ordered := by
    show (Verdict.apply _ _ _).Ordered
    rw [Verdict.apply]
    split
    · exact h.ordered.insert _ _
    · exact h.ordered.erase _
  keyed k e he := by
    -- its own entry is the one the verdict makes, the others are as they were
    rw [get?_recordFailure s now (h.keyed f.item.id)] at he
    split at he
    · rename_i hk
      rw [← hk]
      exact Verdict.item_of_entry?_eq_some (h.keyed f.item.id) he
    · exact h.keyed k e he

theorem Tidy.recordFailures (h : store.Tidy) (failures : List Failure) :
    Tidy (store.recordFailures s now failures).2 := by
  induction failures generalizing store with
  | nil => exact h
  | cons f rest ih =>
    rw [recordFailures_cons]
    exact ih (h.recordFailure f)

theorem Tidy.recordSuccesses (h : store.Tidy) (ids : List Int64) :
    Tidy (store.recordSuccesses ids).2 := by
  induction ids generalizing store with
  | nil => exact h
  | cons id rest ih =>
    rw [recordSuccesses_cons]
    exact ih (h.erase id)

theorem Tidy.told (h : store.Tidy) (call : RetryCall) : Tidy (store.told s call) := by
  cases call with
  | failed now failures => exact h.recordFailures failures
  | summarized ids => exact h.recordSuccesses ids

/-- Each failure of an item finds the entry as the one before left it. -/
theorem Tidy.get?_recordFailures (h : store.Tidy) (failures : List Failure) (id : Int64) :
    (store.recordFailures s now failures).2.get? id =
      ((RetryCall.failed now failures).eventsOf id).foldl s.entryOn (store.get? id) := by
  induction failures generalizing store with
  | nil => rfl
  | cons f rest ih =>
    rw [recordFailures_cons, ih (h.recordFailure f), get?_recordFailure s now (h.keyed f.item.id)]
    -- a failure of another item is no event of this one, and leaves its entry alone
    by_cases hid : f.item.id = id
    · subst hid
      simp [RetryCall.eventsOf, RetrySettings.entryOn]
    · simp [RetryCall.eventsOf, hid]

theorem get?_recordSuccesses_eventsOf (s : RetrySettings) (store : RetryStore) (ids : List Int64)
    (id : Int64) :
    (store.recordSuccesses ids).2.get? id =
      ((RetryCall.summarized ids).eventsOf id).foldl s.entryOn (store.get? id) := by
  induction ids generalizing store with
  | nil => rfl
  | cons k rest ih =>
    rw [recordSuccesses_cons, ih, Table.get?_erase]
    -- an item that has a summary has no entry
    by_cases hk : k = id
    · simp [RetryCall.eventsOf, hk, RetrySettings.entryOn]
    · simp [RetryCall.eventsOf, hk]

/-- A call changes the entry of an item by what it tells of the item. -/
theorem Tidy.get?_told (h : store.Tidy) (call : RetryCall) (id : Int64) :
    (store.told s call).get? id = (call.eventsOf id).foldl s.entryOn (store.get? id) := by
  cases call with
  | failed now failures => exact h.get?_recordFailures failures id
  | summarized ids => exact get?_recordSuccesses_eventsOf s store ids id

theorem Tidy.foldl_told (h : store.Tidy) (history : List RetryCall) :
    Tidy (history.foldl (RetryStore.told s) store) ∧ ∀ id,
      (history.foldl (RetryStore.told s) store).get? id =
        (eventsOf id history).foldl s.entryOn (store.get? id) := by
  induction history generalizing store with
  | nil => exact ⟨h, fun _ => rfl⟩
  | cons call rest ih =>
    obtain ⟨htidy, hget⟩ := ih (h.told call)
    refine ⟨htidy, ?_⟩
    intro id
    rw [List.foldl_cons, hget, h.get?_told]
    simp only [eventsOf, List.flatMap_cons, List.foldl_append]

theorem tidy_after (s : RetrySettings) (history : List RetryCall) : Tidy (after s history) :=
  (tidy_empty.foldl_told history).1

/-- What is stored of an item follows from the events of the item. -/
theorem get?_after (s : RetrySettings) (history : List RetryCall) (id : Int64) :
    (after s history).get? id = (eventsOf id history).foldl s.entryOn none :=
  (tidy_empty.foldl_told history).2 id

end RetryStore

/-! ## From one event to the next -/

namespace Streak

variable {s : RetrySettings} {id : Int64} {streak : Streak} {event : RetryEvent}

theorem entryOf?_eq_none_iff : streak.entryOf? s id = none ↔ streak = [] := by
  cases streak with
  | nil => exact iff_of_true rfl rfl
  | cons first more => exact iff_of_false (Option.some_ne_none _) (List.cons_ne_nil first more)

/-- The entry tells the length of its streak. -/
theorem retries_of_entryOf? {e : RetryEntry} (hlength : streak.length ≤ 4294967295)
    (h : streak.entryOf? s id = some e) :
    e.retries.toNat + 1 = streak.length ∧ e.maxRetries = s.maxRetries := by
  cases streak with
  | nil => cases h
  | cons first more =>
    rw [List.length_cons] at hlength ⊢
    cases h
    refine ⟨?_, rfl⟩
    show (UInt32.ofNat more.length).toNat + 1 = more.length + 1
    rw [UInt32.toNat_ofNat_of_lt']
    exact Nat.lt_of_lt_of_le hlength (by decide)

/-- One failure more is one retry more. -/
theorem entryOf?_concat {e : RetryEntry} (hlength : streak.length ≤ 4294967295)
    (h : streak.entryOf? s id = some e) (miss : Miss) :
    entryOf? s id (streak ++ [miss]) =
      some ((e.retried s.baseSpan miss.time).withCause miss.reason miss.kind) := by
  obtain ⟨hretries, -⟩ := retries_of_entryOf? hlength h
  -- the counter is not at its largest value, so it is exact
  have hcount : Word.clamp32 (e.retries.toNat + 1) = UInt32.ofNat streak.length := by
    rw [hretries, Word.clamp32, if_pos (Nat.lt_succ_of_le hlength)]
  cases streak with
  | nil => cases h
  | cons first more =>
    cases h
    simp only [RetryEntry.retried, RetryEntry.withCause, hcount]
    simp [entryOf?]

theorem length_next_le (hlength : streak.length ≤ s.maxRetries.toNat + 1) (event : RetryEvent) :
    (streak.next s.maxRetries event).length ≤ s.maxRetries.toNat + 1 := by
  cases event with
  | summarized => exact Nat.zero_le _
  | failed now f =>
    rw [next]
    -- the streak ends, or grows while it is shorter than allowed
    split
    · split
      · exact Nat.zero_le _
      · rw [List.length_append, List.length_singleton]
        omega
    · exact Nat.zero_le _

/-- The entry follows the streak. -/
theorem entryOf?_next (hmax : s.maxRetries.toNat < 4294967295)
    (hlength : streak.length ≤ s.maxRetries.toNat + 1)
    (hitem : event.IsOf id) :
    (streak.next s.maxRetries event).entryOf? s id = s.entryOn (streak.entryOf? s id) event := by
  cases event with
  | summarized => rfl
  | failed now f =>
    cases (hitem : f.item.id = id)
    -- no entry has more retries than are allowed, so the counter never stops at the largest word
    have hbounded : ∀ e, streak.entryOf? s f.item.id = some e →
        e.retries ≤ e.maxRetries ∧ e.maxRetries.toNat < 4294967295 := by
      intro e he
      obtain ⟨hretries, hof⟩ := retries_of_entryOf? (by omega) he
      rw [hof, UInt32.le_iff_toNat_le]
      omega
    rw [RetrySettings.entryOn, Verdict.entry?_of hbounded, next]
    unfold RetrySettings.entryAfter
    by_cases hretry : f.retryable = true
    · rw [if_pos hretry, if_pos hretry]
      cases he : streak.entryOf? s f.item.id with
      | none =>
        -- the first entry waits for the base delay itself
        rw [entryOf?_eq_none_iff] at he
        subst he
        have hroom : ([] : Streak).length ≠ s.maxRetries.toNat + 1 := (Nat.succ_ne_zero _).symm
        rw [if_neg hroom]
        simp [entryOf?, RetryEntry.new, RetryEntry.factor, Failure.note]
      | some e =>
        obtain ⟨hretries, hof⟩ := retries_of_entryOf? (by omega) he
        -- a retry is left just when the streak may grow
        have hleft : e.retries < e.maxRetries ↔ streak.length ≠ s.maxRetries.toNat + 1 := by
          rw [hof, UInt32.lt_iff_toNat_lt]
          omega
        dsimp only
        by_cases hlast : streak.length = s.maxRetries.toNat + 1
        · rw [if_pos hlast, if_neg (mt hleft.1 (not_not_intro hlast))]
          rfl
        · rw [if_neg hlast, if_pos (hleft.2 hlast)]
          exact entryOf?_concat (by omega) he _
    · -- no further attempt helps, so streak and entry end
      rw [if_neg hretry, if_neg hretry]
      rfl

theorem entryOf?_foldl (hmax : s.maxRetries.toNat < 4294967295) {events : List RetryEvent}
    (hitem : ∀ event ∈ events, event.IsOf id) (hlength : streak.length ≤ s.maxRetries.toNat + 1) :
    let later := events.foldl (next s.maxRetries) streak
    later.length ≤ s.maxRetries.toNat + 1 ∧
      later.entryOf? s id = events.foldl s.entryOn (streak.entryOf? s id) := by
  induction events generalizing streak with
  | nil => exact ⟨hlength, rfl⟩
  | cons event rest ih =>
    obtain ⟨hevent, hrest⟩ := List.forall_mem_cons.1 hitem
    rw [List.foldl_cons, List.foldl_cons, ← entryOf?_next hmax hlength hevent]
    exact ih hrest (length_next_le hlength event)

end Streak

/-! ## The whole history -/

theorem RetryCall.isOf_of_mem_eventsOf {call : RetryCall} {id : Int64} :
    ∀ event ∈ call.eventsOf id, event.IsOf id := by
  intro event hmem
  cases call with
  | failed now failures =>
    obtain ⟨f, hf, rfl⟩ := List.mem_map.1 hmem
    have hid := (List.mem_filter.1 hf).2
    rw [decide_eq_true_iff] at hid
    exact hid
  | summarized ids =>
    obtain ⟨_, _, rfl⟩ := List.mem_map.1 hmem
    trivial

namespace RetryReport

/-- The failures that were counted. -/
def total (r : RetryReport) : Nat := r.enqueued + r.rescheduled + r.exhausted + r.permanent

theorem total_add (r : RetryReport) (v : Verdict) : (r.add v).total = r.total + 1 := by
  cases v with
  | permanent => rfl
  | enqueued | rescheduled | exhausted =>
    simp only [add, total]
    omega

end RetryReport

namespace RetryStore

variable {s : RetrySettings} {id : Int64}

/-- After each history the entry of an item is that of its streak. -/
theorem get?_after_eq (hmax : s.maxRetries.toNat < 4294967295) (history : List RetryCall)
    (id : Int64) :
    let streak := Streak.of s.maxRetries (eventsOf id history)
    streak.length ≤ s.maxRetries.toNat + 1 ∧ (after s history).get? id = streak.entryOf? s id := by
  have hitem : ∀ event ∈ eventsOf id history, event.IsOf id := by
    intro event hmem
    obtain ⟨call, _, hevent⟩ := List.mem_flatMap.1 hmem
    exact RetryCall.isOf_of_mem_eventsOf event hevent
  have hnew : ([] : Streak).length ≤ s.maxRetries.toNat + 1 := Nat.zero_le _
  obtain ⟨hlength, hentry⟩ := Streak.entryOf?_foldl hmax hitem hnew
  exact ⟨hlength, (get?_after s history id).trans hentry.symm⟩

theorem total_foldl (s : RetrySettings) (now : Timestamp) (failures : List Failure)
    (counted : RetryReport × RetryStore) :
    (failures.foldl (fun acc f =>
      let r := recordFailure s now acc.2 f
      (acc.1.add r.1, r.2)) counted).1.total = counted.1.total + failures.length := by
  induction failures generalizing counted with
  | nil => rfl
  | cons f rest ih =>
    rw [List.foldl_cons, ih, RetryReport.total_add, List.length_cons]
    omega

/-- Each failure is counted once. -/
theorem total_recordFailures (s : RetrySettings) (now : Timestamp) (store : RetryStore)
    (failures : List Failure) : (store.recordFailures s now failures).1.total = failures.length :=
  (total_foldl s now failures ({}, store)).trans (Nat.zero_add _)

theorem removed_foldl (ids : List Int64) (counted : Nat × RetryStore) (h : counted.2.Ordered) :
    let after := ids.foldl (fun acc id =>
      (if acc.2.contains id then acc.1 + 1 else acc.1, acc.2.erase id)) counted
    after.1 + after.2.size = counted.1 + counted.2.size := by
  induction ids generalizing counted with
  | nil => rfl
  | cons id rest ih =>
    refine (ih _ (h.erase id)).trans ?_
    -- an entry is counted just when the table gets smaller by it
    have hsize := h.size_erase id
    dsimp only
    split at hsize
    · rename_i hcontains
      rw [if_pos hcontains]
      omega
    · rename_i hcontains
      rw [if_neg hcontains]
      omega

/-- What is reported as removed has left the store. -/
theorem removed_recordSuccesses {store : RetryStore} (h : store.Ordered) (ids : List Int64) :
    (store.recordSuccesses ids).1 + (store.recordSuccesses ids).2.size = store.size :=
  (removed_foldl ids (0, store) h).trans (Nat.zero_add _)

/-- What the queue stores of an item follows from the failures in a row of this item, and from
nothing that it was told of others: it has an entry just when there are such failures, and then one
retry less than failures. Each failure is counted once in the report of its call, and the number of
summaries that is reported is the number of entries that left. -/
theorem streaks_counted (hmax : s.maxRetries.toNat < 4294967295) (history : List RetryCall) :
    let store := after s history
    (∀ id,
      let streak := Streak.of s.maxRetries (eventsOf id history)
      store.get? id = streak.entryOf? s id ∧
        ∀ e, store.get? id = some e →
          e.retries.toNat + 1 = streak.length ∧ e.retries ≤ s.maxRetries) ∧
    (∀ now failures, (store.recordFailures s now failures).1.total = failures.length) ∧
    ∀ ids, (store.recordSuccesses ids).1 + (store.recordSuccesses ids).2.size = store.size ∧
      ∀ id, (store.recordSuccesses ids).2.get? id = if id ∈ ids then none else store.get? id := by
  intro store
  refine ⟨?_, ?_, ?_⟩
  · intro id streak
    obtain ⟨hlength, hentry⟩ := get?_after_eq hmax history id
    refine ⟨hentry, ?_⟩
    intro e he
    obtain ⟨hretries, _⟩ := Streak.retries_of_entryOf? (by omega) (hentry.symm.trans he)
    refine ⟨hretries, ?_⟩
    rw [UInt32.le_iff_toNat_le]
    omega
  · exact fun now failures => total_recordFailures s now store failures
  · exact fun ids =>
      ⟨removed_recordSuccesses (tidy_after s history).ordered ids, get?_recordSuccesses store ids⟩

namespace Interleaved

open Time.Span (ofSeconds)

def settings : RetrySettings := { maxRetries := 1, baseDelay := 1000 }

def second (n : Nat) : Timestamp := Timestamp.epoch.add (ofSeconds n)

def failure (id : Int64) (kind : FailureKind) (reason : String) : Failure :=
  .ofBatch { id, title := "a post", content := "about it", timestamp := .epoch } kind reason 1

/-- Item 1 fails twice in one call, once more when it has no retry left, and twice again. Item 2
fails for good, and item 3 gets a summary. -/
def history : List RetryCall :=
  [.failed (second 0) [failure 1 .timeout "slow", failure 2 .apiError "down",
    failure 1 .rateLimit "busy"],
    .failed (second 5) [failure 2 .apiError "down", failure 1 .timeout "slow"],
    .failed (second 9) [failure 1 .timeout "slow", failure 2 .safetyBlocked "no",
      failure 3 .timeout "slow"], .summarized [3, 3, 7],
    .failed (second 12) [failure 1 .apiError "down"]]

end Interleaved

open Interleaved in
theorem streaks_counted_interleaved :
    settings.maxRetries.toNat < 4294967295 ∧
      (after settings history).get? 1 = some
        { item := 1, reason := "down", kind := .apiError, retries := 1, next := second 14,
          maxRetries := 1, created := second 9, last := some (second 12) } ∧
      (after settings history).get? 2 = none ∧ (after settings history).get? 3 = none ∧
      ((after settings history).recordFailures settings (second 15)
        [failure 1 .timeout "slow"]).1.total = 1 ∧
      ((after settings history).recordSuccesses [1, 2, 1]).1 = 1 := by
  have hmax : settings.maxRetries.toNat < 4294967295 := by decide
  obtain ⟨hentries, htotal, hremoved⟩ := streaks_counted hmax history
  refine ⟨hmax, (hentries 1).1.trans ?_, (hentries 2).1.trans ?_, (hentries 3).1.trans ?_,
    htotal _ _, ?_⟩
  · decide +kernel
  · decide +kernel
  · decide +kernel
  · have hsizes := (hremoved [1, 2, 1]).1
    have hbefore : (after settings history).size = 1 := by decide +kernel
    have hafter : ((after settings history).recordSuccesses [1, 2, 1]).2.size = 0 := by
      decide +kernel
    omega

end RetryStore

end Precis
