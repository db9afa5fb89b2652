import Precis.Proofs.Dispatch.Isolation

/-!
# Providers that answer by the item

A provider may say of each item the same whenever it is asked (`Provider.Answers`). When it answers
at once and there is no limiter, a dispatch ends after one call for each request, and what becomes
of an item follows from its id alone, but for the number of items that were sent with it:
`exists_ends_answered`.
-/

namespace Precis

open Time

/-- What a provider says of an item that it is asked about: how it went, or nothing. -/
abbrev Answer := Int64 → Option ItemOutcome

/-- The provider answers every call at once, and of each item it says what `answer` says of its
id. -/
def Provider.Answers {σ : Type} (provider : Provider σ) (answer : Answer) : Prop :=
  ∀ now state items, ∃ response state',
    provider now state items = ({ millis := 0, result := .answered response }, state') ∧
      ∀ item ∈ items, response.lookup item.id = answer item.id

/-! ## What becomes of an item -/

/-- The note without the number of items that were sent together. -/
def FailureNote.unsized (note : FailureNote) : FailureNote := { note with batchSize := 0 }

/-- The failure without the number of items that were sent together. -/
def Failure.unsized (f : Failure) : Failure := { f with batchSize := 0 }

theorem Failure.note_unsized (f : Failure) : f.unsized.note = f.note.unsized := rfl

namespace Answer

variable (answer : Answer) (item : Item)

/-- The item with its summary, if it gets one. -/
def summary : Option SummarizedItem :=
  match answer item.id with
  | some (.summary summary) => some { item, summary }
  | _ => none

/-- The note of an item that gets no summary. -/
def note : Option FailureNote :=
  match answer item.id with
  | some (.summary _) => none
  | some (.failed message code) =>
    some { kind := ItemOutcome.kind message code, message, batchSize := 0, wholeBatch := false }
  | none =>
    some
      { kind := .apiError, message := "item missing from provider response", batchSize := 0
        wholeBatch := false }

/-- The failure of an item that gets no summary. -/
def failure : Option Failure :=
  (answer.note item).map fun note => .ofItem item note.kind note.message 0

variable {answer item}

theorem note_eq_none_iff : answer.note item = none ↔ (answer.summary item).isSome = true := by
  rw [note, summary]
  rcases answer item.id with _ | _ | _ <;> simp

/-- Items of one id fare alike. -/
theorem note_congr {other : Item} (h : other.id = item.id) :
    answer.note other = answer.note item := by
  rw [note, note, h]

theorem summary_congr {other : Item} (h : other.id = item.id) :
    (answer.summary other).map ({ · with item }) = answer.summary item := by
  rw [summary, summary, h]
  rcases answer item.id with _ | _ | _ <;> rfl

theorem item_of_summary {s : SummarizedItem} (h : answer.summary item = some s) :
    s.item = item := by
  rw [summary] at h
  split at h
  · cases h
    rfl
  · cases h

theorem failure_eq_some {f : Failure} (h : answer.failure item = some f) :
    f.item = item ∧ answer.note item = some f.note := by
  obtain ⟨note, hnote, rfl⟩ := Option.map_eq_some_iff.1 h
  refine ⟨rfl, ?_⟩
  -- the note is of the item alone, and knows no size
  rw [Answer.note] at hnote ⊢
  split at hnote
  · cases hnote
  · cases hnote
    rfl
  · cases hnote
    rfl

theorem retryable_of_failure {f : Failure} (h : answer.failure item = some f) :
    f.retryable = f.kind.retryable := by
  obtain ⟨note, -, rfl⟩ := Option.map_eq_some_iff.1 h
  rfl

end Answer

/-! ## A request -/

namespace Request

variable {r : Request} {answer : Answer} {response : Response}

/-- The outcome that the answers give a request. -/
structure AnsweredBy (answer : Answer) (r : Request) (result : Result) : Prop where
  successes_eq : result.outcome.successes = r.items.filterMap answer.summary
  failures_eq : result.outcome.failures.map (·.unsized) = r.items.filterMap answer.failure

theorem summaryOf_of_lookup {item : Item} (h : response.lookup item.id = answer item.id) :
    summaryOf response item = answer.summary item := by
  rcases hsaid : answer item.id with _ | _ | _ <;> simp only [summaryOf, Answer.summary, h, hsaid]

theorem failureOf_of_lookup {item : Item} (h : response.lookup item.id = answer item.id) :
    (r.failureOf response item).map (·.unsized) = answer.failure item := by
  rw [failureOf, Answer.failure, Answer.note, h]
  rcases answer item.id with _ | _ | _ <;> rfl

theorem answeredBy_result (attempts : Nat)
    (h : ∀ item ∈ r.items, response.lookup item.id = answer item.id) :
    r.AnsweredBy answer (r.result attempts (r.answered response)) := by
  constructor
  · show (r.answered response).successes = _
    rw [answered_eq]
    exact List.filterMap_congr fun item hitem => summaryOf_of_lookup (h item hitem)
  · show (r.answered response).failures.map _ = _
    rw [answered_eq, List.map_filterMap]
    exact List.filterMap_congr fun item hitem => failureOf_of_lookup (h item hitem)

theorem answeredBy_empty (h : r.items = []) : r.AnsweredBy answer (r.result 0 {}) := by
  constructor
  · rw [h]
    rfl
  · rw [h]
    rfl

end Request

/-! ## A dispatch -/

namespace Dispatch

variable {α σ : Type} {settings : DispatchSettings} {provider : Provider σ} {answer : Answer}
  {requests : List Request}

/-- The call was answered as it should be, at once. -/
inductive Replied (answer : Answer) (r : Request) : Phase → Prop where
  | idle : Replied answer r .idle
  | calling (start : Nat) (response : Response)
      (h : ∀ item ∈ r.items, response.lookup item.id = answer item.id) :
      Replied answer r (.calling start (.answered response) false)

/-- Nobody waits for a permit, and the call of a request, if it was made, was answered. -/
structure OnCourse (answer : Answer) (requests : List Request) (w : World α σ) (i : Nat)
    (task : Task) : Prop where
  limiter : w.limiter = none
  request : requests[i]? = some task.request
  replied : Replied answer task.request task.phase

/-- A request has its call to make, or to wait for its end. -/
def Task.ahead (task : Task) : Nat :=
  match task.phase with
  | .calling _ _ _ => 0
  | _ => 1

variable [Quantity α]

/-- One call is made for a request, and then the request ends as the answers have it. -/
theorem OnCourse.leads {w : World α σ} {i : Nat} {task : Task} (hanswers : provider.Answers answer)
    (h : OnCourse answer requests w i task) (now : Nat) :
    (Task.act settings provider now i w task).2.Leads
      (fun next => OnCourse answer requests (Task.act settings provider now i w task).1 i next ∧
        next.ahead < task.ahead)
      fun result => ∃ r, requests[i]? = some r ∧ r.AnsweredBy answer result := by
  obtain ⟨r, attempts, phase⟩ := task
  obtain ⟨hlimiter, hr, hreplied⟩ := h
  dsimp only at hr hreplied
  -- without items there is nothing to answer
  by_cases hitems : r.items.isEmpty = true
  · rw [Task.act_empty hitems]
    exact ⟨r, hr, Request.answeredBy_empty (List.isEmpty_iff.1 hitems)⟩
  cases hreplied with
  | idle =>
    -- the call begins, and its reply is on its way
    obtain ⟨response, state, hreply, hlookup⟩ := hanswers now w.provider r.items
    rw [Task.act_idle hlimiter hitems, Task.call]
    dsimp only
    rw [hreply]
    refine ⟨⟨hlimiter, hr, ?_⟩, Nat.zero_lt_one⟩
    have hnotCut : decide (settings.timeout.toNat < 0) = false :=
      decide_eq_false (Nat.not_lt_zero _)
    show Replied answer r (.calling now (.answered response) (decide (settings.timeout.toNat < 0)))
    rw [hnotCut]
    exact Replied.calling now response hlookup
  | calling start response hlookup =>
    -- the call is over, and the reply is the result
    rw [Task.act_calling hitems]
    exact ⟨r, hr, Request.answeredBy_result attempts hlookup⟩

/-- No dispatch makes a limiter. -/
theorem limiter_of_run {w : World α σ} {fuel now : Nat} {report : Report α σ}
    (hlimiter : w.limiter = none)
    (hrun : Dispatch.run settings provider fuel w now requests = some (.ok report)) :
    report.world.limiter = none := by
  obtain ⟨s, hs, _, rfl⟩ := run_eq_ok hrun
  have hact : ∀ now i (w : World α σ) task, w.limiter = none →
      (Task.act settings provider now i w task).1.limiter = none :=
    fun now i w task h => (Task.act_world settings provider now i task h).1
  exact Schedule.world_of_run hact fuel hlimiter hs

/-- Without a limiter a dispatch ends, and the requests end as the answers have it. -/
theorem exists_ends_answered {w : World α σ} (settings : DispatchSettings) (requests : List Request)
    (hanswers : provider.Answers answer) (hlimiter : w.limiter = none) (now : Nat) :
    ∃ report, Ends settings provider w now requests report ∧ report.world.limiter = none ∧
      List.Forall₂ (Request.AnsweredBy answer) requests report.results := by
  have hkeeps : Schedule.Keeps (Task.act settings provider) (OnCourse (α := α) answer requests)
      fun i result => ∃ r, requests[i]? = some r ∧ r.AnsweredBy answer result := by
    constructor
    · intro now i w task h
      exact (h.leads hanswers now).imp (fun _ hnext => hnext.1) fun _ hresult => hresult
    · -- the others look only at the limiter, and there is none
      intro now i w task h j other _ hother
      have hworld := Task.act_world settings provider now i task h.limiter
      exact ⟨hworld.1, hother.request, hother.replied⟩
  have hlowers : Schedule.Lowers (Task.act settings provider) (OnCourse (α := α) answer requests)
      Task.ahead := by
    intro now i w task h
    exact ⟨Task.goesOn_of_limiter h.limiter,
      (h.leads hanswers now).imp (fun _ hnext => hnext.2) fun _ _ => trivial⟩
  obtain ⟨report, ⟨enough, hends⟩, hresults⟩ :=
    exists_ends_of_lowers now hkeeps hlowers fun i r hr => ⟨hlimiter, hr, Replied.idle⟩
  have hnone := limiter_of_run hlimiter (hends enough (Nat.le_refl _))
  exact ⟨report, ⟨enough, hends⟩, hnone, hresults⟩

/-- What becomes of the items does not depend on how they stand in requests. -/
theorem answered_results {results : List Result}
    (h : List.Forall₂ (Request.AnsweredBy answer) requests results) :
    results.flatMap (·.outcome.successes) = (requests.flatMap (·.items)).filterMap answer.summary ∧
      (results.flatMap (·.outcome.failures)).map (·.unsized)
        = (requests.flatMap (·.items)).filterMap answer.failure := by
  induction h with
  | nil => exact ⟨rfl, rfl⟩
  | cons hfirst _ ih =>
    simp only [List.flatMap_cons, List.map_append, List.filterMap_append, hfirst.successes_eq,
      hfirst.failures_eq, ih.1, ih.2, and_self]

end Dispatch

end Precis
