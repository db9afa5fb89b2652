import Mathlib.Data.List.Forall2
import Precis.Dispatch.Basic
import Precis.Proofs.Time.Schedule

/-!
# Every request gets its result

When a dispatch ends, each request has one result, in the order of the requests, and the outcome in
it is that of a response or of an error for the whole request (`forall₂_results`). Either way every
item stands in the outcome once, as it was sent, summarized or failed, and the failures are all the
whole batch's or all the items' own (`conserved_results`).
-/

namespace Precis

/-! ## Outcomes of a request -/

namespace Request

variable {r : Request} {response : Response}

/-- The summary of an item in a response. -/
def summaryOf (response : Response) (item : Item) : Option SummarizedItem :=
  match response.lookup item.id with
  | some (.summary summary) => some { item, summary }
  | _ => none

/-- The failure of an item that has no summary in a response. -/
def failureOf (r : Request) (response : Response) (item : Item) : Option Failure :=
  let fail := fun kind reason => some (.ofItem item kind reason r.size)
  match response.lookup item.id with
  | some (.summary _) => none
  | some (.failed message code) => fail (ItemOutcome.kind message code) message
  | none => fail .apiError "item missing from provider response"

/-- A response gives an item either a summary or a failure, its own and not the whole batch's. -/
theorem summaryOf_or_failureOf (r : Request) (response : Response) (item : Item) :
    (∃ s : SummarizedItem, s.item = item ∧ summaryOf response item = some s ∧
      r.failureOf response item = none) ∨
    (∃ f : Failure, f.item = item ∧ f.wholeBatch = false ∧ f.batchSize = r.size ∧
      summaryOf response item = none ∧ r.failureOf response item = some f) := by
  rw [summaryOf, failureOf]
  -- the response leaves the item out, has a summary of it, or says that it failed
  rcases response.lookup item.id with _ | summary | ⟨message, code⟩
  · exact Or.inr ⟨_, rfl, rfl, rfl, rfl, rfl⟩
  · exact Or.inl ⟨_, rfl, rfl, rfl⟩
  · exact Or.inr ⟨_, rfl, rfl, rfl, rfl, rfl⟩

theorem settle_eq (o : Outcome) (item : Item) :
    r.settle response o item =
      { successes := o.successes ++ (summaryOf response item).toList
        failures := o.failures ++ (r.failureOf response item).toList } := by
  rw [settle, summaryOf, failureOf]
  rcases response.lookup item.id with _ | _ | _ <;> simp

/-- A response settles the items one by one. -/
theorem answered_eq (r : Request) (response : Response) :
    r.answered response =
      { successes := r.items.filterMap (summaryOf response)
        failures := r.items.filterMap (r.failureOf response) } := by
  have hfold : ∀ (items : List Item) (o : Outcome),
      items.foldl (r.settle response) o =
        { successes := o.successes ++ items.filterMap (summaryOf response)
          failures := o.failures ++ items.filterMap (r.failureOf response) } := by
    intro items
    induction items with
    | nil =>
      intro o
      simp
    | cons item rest ih =>
      intro o
      rw [List.foldl_cons, ih, settle_eq, List.filterMap_cons, List.filterMap_cons]
      -- an item makes a summary or a failure, never both
      cases summaryOf response item <;> cases r.failureOf response item <;> simp
  have h := hfold r.items {}
  rw [List.nil_append, List.nil_append] at h
  exact h

/-- An outcome that a request can have. -/
inductive Settles (r : Request) : Outcome → Prop where
  | empty (h : r.items = []) : Settles r {}
  | answered (response : Response) : Settles r (r.answered response)
  | failed (e : CallError) : Settles r (r.failed e)

end Request

/-- The items that `won` picks are the successes and the others are the failures, both in order. -/
structure Outcome.Parts (o : Outcome) (items : List Item) (won : Item → Bool) : Prop where
  successes_eq : o.successes.map (·.item) = items.filter won
  failures_eq : o.failures.map (·.item) = items.filter fun item => !won item

namespace Request

variable {r : Request}

/-- A list that is made of some items of another one holds those items in order. -/
theorem map_filterMap_eq_filter {β : Type} {make : Item → Option β} {item : β → Item}
    (h : ∀ i b, make i = some b → item b = i) (items : List Item) :
    (items.filterMap make).map item = items.filter fun i => (make i).isSome := by
  rw [List.map_filterMap, ← List.filterMap_eq_filter]
  refine List.filterMap_congr ?_
  intro i _
  cases hmake : make i with
  | none => simp [Option.guard, hmake]
  | some b => simp [Option.guard, hmake, h i b hmake]

theorem parts_answered (r : Request) (response : Response) :
    (r.answered response).Parts r.items fun item => (summaryOf response item).isSome := by
  rw [answered_eq]
  refine ⟨map_filterMap_eq_filter ?_ r.items, ?_⟩
  · intro item s hs
    rcases summaryOf_or_failureOf r response item with
      ⟨_, rfl, hsummary, _⟩ | ⟨_, _, _, _, hsummary, _⟩
    · -- a summary is that of its item
      cases hs.symm.trans hsummary
      rfl
    · cases hs.symm.trans hsummary
  · -- what has no summary has a failure
    have hfailed : ∀ item,
        (r.failureOf response item).isSome = !(summaryOf response item).isSome := by
      intro item
      rcases summaryOf_or_failureOf r response item with
        ⟨_, _, hsummary, hfailure⟩ | ⟨_, _, _, _, hsummary, hfailure⟩
      · rw [hsummary, hfailure]
        rfl
      · rw [hsummary, hfailure]
        rfl
    simp only [← hfailed]
    refine map_filterMap_eq_filter ?_ r.items
    intro item f hf
    rcases summaryOf_or_failureOf r response item with
      ⟨_, _, _, hfailure⟩ | ⟨_, rfl, _, _, _, hfailure⟩
    · -- an item with a summary has no failure
      cases hf.symm.trans hfailure
    · cases hf.symm.trans hfailure
      rfl

theorem items_failed (r : Request) (e : CallError) :
    (r.failed e).failures.map (·.item) = r.items := by
  rw [failed, List.map_map]
  exact List.map_id r.items

theorem parts_failed (r : Request) (e : CallError) : (r.failed e).Parts r.items fun _ => false := by
  refine ⟨?_, ?_⟩
  · exact (List.filter_eq_nil_iff.2 fun _ _ => Bool.false_ne_true).symm
  · rw [items_failed]
    exact (List.filter_eq_self.2 fun _ _ => rfl).symm

theorem Settles.parts {o : Outcome} (h : Settles r o) : ∃ won, o.Parts r.items won := by
  cases h with
  | empty h =>
    -- no items, and no outcomes
    rw [h]
    exact ⟨fun _ => false, rfl, rfl⟩
  | answered response => exact ⟨_, parts_answered r response⟩
  | failed e => exact ⟨_, parts_failed r e⟩

/-- Each failure knows how many items were sent with it. -/
theorem Settles.batchSize_eq {o : Outcome} (h : Settles r o) {f : Failure} (hf : f ∈ o.failures) :
    f.batchSize = r.size := by
  cases h with
  | empty => cases hf
  | answered response =>
    rw [answered_eq] at hf
    obtain ⟨item, _, hitem⟩ := List.mem_filterMap.1 hf
    rcases summaryOf_or_failureOf r response item with
      ⟨_, _, _, hfailure⟩ | ⟨_, _, _, hsize, _, hfailure⟩
    · cases hitem.symm.trans hfailure
    · -- the failure is one of an item
      cases hitem.symm.trans hfailure
      exact hsize
  | failed e =>
    -- every item has the failure of the whole batch
    obtain ⟨item, _, rfl⟩ := List.mem_map.1 hf
    rfl

/-- Each failure is worth another attempt just if its kind is. -/
theorem Settles.retryable_eq {o : Outcome} (h : Settles r o) {f : Failure} (hf : f ∈ o.failures) :
    f.retryable = f.kind.retryable := by
  cases h with
  | empty => cases hf
  | answered response =>
    rw [answered_eq] at hf
    -- a failure of an item takes its kind from the answer, and whether to retry it from the kind
    obtain ⟨item, _, hitem⟩ := List.mem_filterMap.1 hf
    rw [failureOf] at hitem
    split at hitem
    · cases hitem
    · cases hitem
      rfl
    · cases hitem
      rfl
  | failed e =>
    obtain ⟨item, _, rfl⟩ := List.mem_map.1 hf
    rfl

/-- The failures are those of the whole batch, with one reason, or of single items. -/
def OneLevel (r : Request) (failures : List Failure) : Prop :=
  (failures.map (·.item) = r.items ∧
    ∃ kind reason, ∀ f ∈ failures, f.wholeBatch = true ∧ f.kind = kind ∧ f.reason = reason) ∨
  ∀ f ∈ failures, f.wholeBatch = false

theorem Settles.oneLevel {o : Outcome} (h : Settles r o) : r.OneLevel o.failures := by
  cases h with
  | empty =>
    right
    intro f hf
    cases hf
  | answered response =>
    right
    intro f hf
    rw [answered_eq] at hf
    obtain ⟨item, _, hitem⟩ := List.mem_filterMap.1 hf
    rcases summaryOf_or_failureOf r response item with
      ⟨_, _, _, hfailure⟩ | ⟨_, _, hlevel, _, _, hfailure⟩
    · cases hitem.symm.trans hfailure
    · cases hitem.symm.trans hfailure
      exact hlevel
  | failed e =>
    -- an error is that of all items, in their order
    left
    refine ⟨items_failed r e, e.kind, e.message, ?_⟩
    intro f hf
    obtain ⟨item, _, rfl⟩ := List.mem_map.1 hf
    exact ⟨rfl, rfl, rfl⟩

end Request

/-! ### Outcomes of several requests -/

/-- Each item is among the successes or among the failures, once and in order. -/
structure Divides (items : List Item) (successes : List SummarizedItem) (failures : List Failure) :
    Prop where
  successes_sublist : (successes.map (·.item)).Sublist items
  failures_sublist : (failures.map (·.item)).Sublist items
  perm : (successes.map (·.item) ++ failures.map (·.item)).Perm items

namespace Divides

theorem nil : Divides [] [] [] := ⟨List.Sublist.refl _, List.Sublist.refl _, List.Perm.refl _⟩

variable {items items' : List Item} {successes successes' : List SummarizedItem}
  {failures failures' : List Failure}

theorem append (h : Divides items successes failures) (h' : Divides items' successes' failures') :
    Divides (items ++ items') (successes ++ successes') (failures ++ failures') := by
  refine ⟨?_, ?_, ?_⟩
  · rw [List.map_append]
    exact h.successes_sublist.append h'.successes_sublist
  · rw [List.map_append]
    exact h.failures_sublist.append h'.failures_sublist
  · refine List.Perm.trans ?_ (h.perm.append h'.perm)
    rw [List.perm_iff_count]
    intro item
    simp only [List.map_append, List.count_append]
    omega

end Divides

theorem Outcome.Parts.divides {o : Outcome} {items : List Item} {won : Item → Bool}
    (h : o.Parts items won) : Divides items o.successes o.failures := by
  refine ⟨?_, ?_, ?_⟩
  · rw [h.successes_eq]
    exact List.filter_sublist
  · rw [h.failures_eq]
    exact List.filter_sublist
  · rw [h.successes_eq, h.failures_eq]
    exact List.filter_append_perm won items

namespace Request

variable {r : Request}

theorem Settles.divides {o : Outcome} (h : Settles r o) :
    Divides r.items o.successes o.failures := by
  obtain ⟨won, hparts⟩ := h.parts
  exact hparts.divides

/-- A result that a dispatch of the request can have. -/
def Gets (r : Request) (result : Result) : Prop :=
  ∃ attempts outcome, result = r.result attempts outcome ∧ r.Settles outcome

end Request

/-- A result that answers for each item of the request. -/
structure Request.Accounted (r : Request) (result : Result) : Prop where
  request_eq : result.request = r.id
  parts : ∃ won, result.outcome.Parts r.items won
  items_eq : result.metrics.items = r.items.length
  successes_eq : result.metrics.successes = result.outcome.successes.length
  failures_eq : result.metrics.failures = result.outcome.failures.length
  batchSize_eq : ∀ f ∈ result.outcome.failures, f.batchSize = UInt64.ofNat r.items.length
  oneLevel : r.OneLevel result.outcome.failures

theorem Request.Gets.accounted {r : Request} {result : Result} (h : r.Gets result) :
    r.Accounted result := by
  obtain ⟨attempts, outcome, rfl, hsettles⟩ := h
  exact ⟨rfl, hsettles.parts, rfl, rfl, rfl, fun _ hf => hsettles.batchSize_eq hf,
    hsettles.oneLevel⟩

/-! ## One request -/

namespace Dispatch.Task

open Time

variable {α σ : Type} [Quantity α] {settings : DispatchSettings}
  {provider : Provider σ} {task : Task}

/-- The task goes on with its request, or ends with a result of it. -/
def Holds (r : Request) : Move Task Result → Prop := Move.Leads (·.request = r) r.Gets

theorem holds_failed (now index : Nat) (w : World α σ) (e : CallError) (called : Bool) :
    Holds task.request (failed settings now index w task e called).2 := by
  rw [failed]
  split
  · -- the task goes on with the same request
    exact rfl
  · exact ⟨_, _, rfl, Request.Settles.failed e⟩

omit [Quantity α] in
theorem holds_call (now index : Nat) (w : World α σ) :
    Holds task.request (call settings provider now index w task).2 := rfl

theorem holds_ask (now index : Nat) (w : World α σ) (l : Limiter α) (caller : Caller) :
    Holds task.request (ask settings provider now index w l caller task).2 := by
  rw [ask]
  dsimp only
  split
  · exact holds_call now index _
  · exact holds_failed now index _ _ _
  · dsimp only
    split
    · exact rfl
    · exact rfl
  · exact rfl

theorem holds_finish (now index : Nat) (w : World α σ) (start : Nat) (result : CallEnd)
    (cut : Bool) : Holds task.request (finish settings now index w task start result cut).2 := by
  rw [finish]
  split
  · exact ⟨_, _, rfl, Request.Settles.answered _⟩
  · exact holds_failed now index _ _ _

theorem holds_attempt (now index : Nat) (w : World α σ) :
    Holds task.request (attempt settings provider now index w task).2 := by
  rw [attempt]
  split
  · exact holds_call now index w
  · exact holds_ask now index w _ _

/-- Whatever a request does, it stays itself until it ends with a result of its own. -/
theorem holds_act (settings : DispatchSettings) (provider : Provider σ) (task : Task)
    (now index : Nat) (w : World α σ) :
    Holds task.request (act settings provider now index w task).2 := by
  rw [act]
  split
  · -- a request without items ends at once
    rename_i hempty
    exact ⟨_, _, rfl, Request.Settles.empty (List.isEmpty_iff.1 hempty)⟩
  · split
    · exact holds_attempt now index w
    · exact holds_ask now index w _ _
    · exact holds_call now index w
    · exact holds_finish now index w _ _ _

end Dispatch.Task

/-! ## All requests -/

namespace Dispatch

open Time

variable {α σ : Type} [Quantity α]

/-- Results sorted by number are those of `0`, `1` and so on. -/
theorem getElem?_inOrder {finished : List (Nat × Result)} {n : Nat}
    (h : (finished.map (·.1)).Perm (List.range n)) :
    (inOrder finished).length = n ∧
      ∀ i result, (inOrder finished)[i]? = some result → (i, result) ∈ finished := by
  have hperm := List.mergeSort_perm finished fun a b => decide (a.1 ≤ b.1)
  have hsorted : (finished.mergeSort fun a b => decide (a.1 ≤ b.1)).Pairwise
      fun a b => decide (a.1 ≤ b.1) = true := by
    apply List.pairwise_mergeSort
    · intro a b c
      simp only [decide_eq_true_eq]
      omega
    · intro a b
      simp only [Bool.or_eq_true, decide_eq_true_eq]
      omega
  have hlength : (inOrder finished).length = n := by
    rw [inOrder, List.length_map, List.length_mergeSort, ← List.length_map (·.1), h.length_eq,
      List.length_range]
  rw [inOrder] at hlength ⊢
  generalize finished.mergeSort (fun a b => decide (a.1 ≤ b.1)) = sorted at *
  -- the numbers are those from zero on, each once and in ascending order
  have hnumbers : sorted.map (·.1) = List.range n := by
    have hnumbered : (sorted.map (·.1)).Pairwise (· ≤ ·) := by
      rw [List.pairwise_map]
      exact hsorted.imp fun hle => of_decide_eq_true hle
    refine List.Perm.eq_of_pairwise ?_ hnumbered List.pairwise_le_range ((hperm.map _).trans h)
    exact fun a b _ _ hab hba => Nat.le_antisymm hab hba
  refine ⟨hlength, ?_⟩
  intro i result hget
  rw [List.getElem?_map, Option.map_eq_some_iff] at hget
  obtain ⟨x, hx, rfl⟩ := hget
  have hi : (sorted.map (·.1))[i]? = some x.1 := by rw [List.getElem?_map, hx, Option.map_some]
  -- the number at place `i` is `i`
  rw [hnumbers, List.getElem?_eq_some_iff] at hi
  obtain ⟨_, hi⟩ := hi
  rw [List.getElem_range] at hi
  rw [hi]
  exact hperm.mem_iff.1 (List.mem_of_getElem? hx)

omit [Quantity α] in
/-- The number of a task is the place of its request. -/
theorem tracked_start (settings : DispatchSettings) {w : World α σ} (now : Nat)
    {requests : List Request} {going : World α σ → Nat → Task → Prop} {ended : Nat → Result → Prop}
    (hgoing : ∀ i r, requests[i]? = some r → going w i { request := r }) :
    Schedule.Tracked going ended requests.length (start settings w now requests) := by
  have htasks : ∀ i task, (requests.map fun request => ({ request } : Task))[i]? = some task →
      going w i task := by
    intro i task htask
    rw [List.getElem?_map, Option.map_eq_some_iff] at htask
    obtain ⟨r, hr, rfl⟩ := htask
    exact hgoing i r hr
  rw [← List.length_map fun request => ({ request } : Task)]
  exact Schedule.tracked_start now (by omega) htasks

/-- What is read off a run that is not stopped. -/
theorem exists_ok_of_bind {ε β γ : Type} {ran : Option (Except ε β)} {read : β → γ} {c : γ}
    (h : ran.bind (·.toOption.map read) = some c) : ∃ b, ran = some (.ok b) ∧ read b = c := by
  obtain ⟨ended, hran, hended⟩ := Option.bind_eq_some_iff.1 h
  cases ended with
  | error e => cases hended
  | ok b => exact ⟨b, hran, Option.some.inj hended⟩

/-- A dispatch that is not stopped ends with a schedule that is not. -/
theorem run_eq_ok {settings : DispatchSettings} {provider : Provider σ} {fuel : Nat} {w : World α σ}
    {now : Nat} {requests : List Request} {report : Report α σ}
    (h : Dispatch.run settings provider fuel w now requests = some (.ok report)) :
    ∃ s, Schedule.run (Task.act settings provider) fuel (start settings w now requests) = some s ∧
      s.stopped = none ∧
      report = { now := s.now, world := s.world, results := inOrder s.finished } := by
  rw [Dispatch.run, Option.map_eq_some_iff] at h
  obtain ⟨s, hs, houtcome⟩ := h
  cases ht : s.outcome with
  | error overflow =>
    -- the run was stopped, so it has no report
    rw [ht] at houtcome
    cases houtcome
  | ok t =>
    obtain ⟨rfl, hstopped⟩ := Schedule.outcome_eq_ok ht
    rw [ht] at houtcome
    cases houtcome
    exact ⟨t, hs, hstopped, rfl⟩

/-- When a dispatch ends, each request has got one result that its acts allow, in the order of the
requests. -/
theorem forall₂_of_keeps {settings : DispatchSettings} {provider : Provider σ} {fuel : Nat}
    {w : World α σ} {now : Nat} {requests : List Request} {report : Report α σ}
    {going : World α σ → Nat → Task → Prop} {allowed : Request → Result → Prop}
    (hkeeps : Schedule.Keeps (Task.act settings provider) going
      fun i result => ∃ r, requests[i]? = some r ∧ allowed r result)
    (hgoing : ∀ i r, requests[i]? = some r → going w i { request := r })
    (hrun : Dispatch.run settings provider fuel w now requests = some (.ok report)) :
    List.Forall₂ allowed requests report.results := by
  obtain ⟨s, hs, hstopped, rfl⟩ := run_eq_ok hrun
  obtain ⟨hperm, hallowed⟩ := (tracked_start settings now hgoing).finished_of_run hkeeps hs hstopped
  obtain ⟨hlength, hget⟩ := getElem?_inOrder hperm
  rw [List.forall₂_iff_get]
  refine ⟨hlength.symm, ?_⟩
  intro i hi hi'
  obtain ⟨r, hr, hr'⟩ := hallowed _ (hget i _ (List.getElem?_eq_getElem hi'))
  rw [List.getElem?_eq_getElem hi] at hr
  cases hr
  exact hr'

/-- The dispatch ends with this report. -/
def Ends (settings : DispatchSettings) (provider : Provider σ) (w : World α σ) (now : Nat)
    (requests : List Request) (report : Report α σ) : Prop :=
  ∃ enough, ∀ fuel, enough ≤ fuel →
    Dispatch.run settings provider fuel w now requests = some (.ok report)

/-- A dispatch ends when every act of a task lowers its rank. -/
theorem exists_ends_of_lowers {settings : DispatchSettings} {provider : Provider σ}
    {w : World α σ} (now : Nat) {requests : List Request} {going : World α σ → Nat → Task → Prop}
    {allowed : Request → Result → Prop} {rank : Task → Nat}
    (hkeeps : Schedule.Keeps (Task.act settings provider) going
      fun i result => ∃ r, requests[i]? = some r ∧ allowed r result)
    (hlowers : Schedule.Lowers (Task.act settings provider) going rank)
    (hgoing : ∀ i r, requests[i]? = some r → going w i { request := r }) :
    ∃ report, Ends settings provider w now requests report ∧
      List.Forall₂ allowed requests report.results := by
  obtain ⟨enough, s, hs, hstopped⟩ :=
    (tracked_start settings now hgoing).exists_run hkeeps hlowers rfl
  have hrun : ∀ fuel, enough ≤ fuel → Dispatch.run settings provider fuel w now requests
      = some (.ok { now := s.now, world := s.world, results := inOrder s.finished }) := by
    intro fuel hfuel
    rw [Dispatch.run, Schedule.run_mono hfuel hs, Option.map_some, Schedule.outcome, hstopped]
    rfl
  exact ⟨_, ⟨enough, hrun⟩, forall₂_of_keeps hkeeps hgoing (hrun enough (Nat.le_refl _))⟩

/-- A task stays with the request at its place, whatever the others do. -/
theorem keeps_request (settings : DispatchSettings) (provider : Provider σ)
    (requests : List Request) :
    Schedule.Keeps (Task.act settings provider)
      (fun (_ : World α σ) i task => requests[i]? = some task.request)
      fun i result => ∃ r, requests[i]? = some r ∧ r.Gets result := by
  refine ⟨?_, fun _ _ _ _ _ _ _ _ hother => hother⟩
  intro now i w task htask
  refine (Task.holds_act settings provider task now i w).imp ?_ ?_
  · intro next hnext
    exact htask.trans (congrArg some hnext.symm)
  · intro result hgets
    exact ⟨task.request, htask, hgets⟩

/-- Each request has got a response, or an error for all its items. -/
theorem forall₂_results {settings : DispatchSettings} {provider : Provider σ} {fuel : Nat}
    {w : World α σ} {now : Nat} {requests : List Request} {report : Report α σ}
    (hrun : Dispatch.run settings provider fuel w now requests = some (.ok report)) :
    List.Forall₂ Request.Gets requests report.results :=
  forall₂_of_keeps (keeps_request settings provider requests) (fun _ _ hr => hr) hrun

/-- When a dispatch ends, each request has one result in its place, which answers for each of its
items once. -/
theorem conserved_results {settings : DispatchSettings} {provider : Provider σ} {fuel : Nat}
    {w : World α σ} {now : Nat} {requests : List Request} {report : Report α σ}
    (hrun : Dispatch.run settings provider fuel w now requests = some (.ok report)) :
    List.Forall₂ Request.Accounted requests report.results :=
  (forall₂_results hrun).imp fun _ _ hgets => hgets.accounted

namespace Breakdown

/-- A post. -/
def post (id : Int64) : Item :=
  { id, title := "a post", content := "about it", timestamp := .epoch }

/-- Three posts, one, none, and the first one again under the number of the first request. -/
def requests : List Request :=
  [{ id := 0, items := [post 1, post 2, post 3], estimatedTokens := 30 },
   { id := 1, items := [post 4], estimatedTokens := 10 },
   { id := 2, items := [], estimatedTokens := 0 },
   { id := 0, items := [post 1], estimatedTokens := 10 }]

/-- Summarizes the first post, refuses the second, says nothing of the third and breaks down over
the fourth. The more calls it got, the sooner it ends one. -/
def provider : Provider Nat := fun _ state items =>
  ({ millis := 90 - 20 * state
     result :=
      if post 4 ∈ items then .crashed none
      else .answered [(1, .summary { text := "the first" }), (2, .failed "no" (some "blocked"))] },
    state + 1)

/-- No limiter, and no call yet. -/
def world : World Float Nat := { limiter := none, provider := 0 }

end Breakdown

open Breakdown in
/-- The calls end in another order than the requests have. -/
theorem conserved_results_breakdown : ∃ report,
    Dispatch.run {} provider 20 world 0 requests = some (.ok report) ∧
      (calls report.world.log).map (·.request) = [1, 0, 3] ∧
      List.Forall₂ Request.Accounted requests report.results := by
  have hcalls : (Dispatch.run {} provider 20 world 0 requests).bind (·.toOption.map
      fun report => (calls report.world.log).map (·.request)) = some [1, 0, 3] := by
    decide +kernel
  obtain ⟨report, hrun, hreport⟩ := exists_ok_of_bind hcalls
  exact ⟨report, hrun, hreport, conserved_results hrun⟩

/-- All items of the requests are in the outcomes, each once and in order. -/
theorem divides_results {requests : List Request} {results : List Result}
    (h : List.Forall₂ Request.Gets requests results) :
    Divides (requests.flatMap (·.items)) (results.flatMap (·.outcome.successes))
      (results.flatMap (·.outcome.failures)) := by
  induction h with
  | nil => exact Divides.nil
  | cons hgets _ ih =>
    obtain ⟨attempts, outcome, rfl, hsettles⟩ := hgets
    rw [List.flatMap_cons, List.flatMap_cons, List.flatMap_cons]
    exact hsettles.divides.append ih

/-- Whether another attempt at an item may help is said by the kind of its failure. -/
theorem retryable_results {requests : List Request} {results : List Result}
    (h : List.Forall₂ Request.Gets requests results) :
    ∀ f ∈ results.flatMap (·.outcome.failures), f.retryable = f.kind.retryable := by
  induction h with
  | nil =>
    intro f hf
    cases hf
  | cons hgets _ ih =>
    obtain ⟨attempts, outcome, rfl, hsettles⟩ := hgets
    rw [List.flatMap_cons, List.forall_mem_append]
    exact ⟨fun _ => hsettles.retryable_eq, ih⟩

end Dispatch

end Precis
