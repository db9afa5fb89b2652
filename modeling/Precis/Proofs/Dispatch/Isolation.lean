import Precis.Proofs.Dispatch.Acts
import Precis.Proofs.Dispatch.Conservation

/-!
# Requests do not touch each other

Without a limiter the requests of a dispatch share nothing but their provider. When the provider
answers by the items of a call and by how often it was sent them, a request with items of its own
ends as its own attempts have it (`Request.resolve`), whatever the other requests do and in whatever
order the calls are made (`isolated_result`).

The invariant is `OnTrack`: the items of a task were sent once for each of its attempts, and what is
left of them leads to the result that it has alone. Other tasks send other items. Each attempt
leaves fewer, so a dispatch ends.
-/

namespace Precis

open Time

/-! ## Providers that count -/

namespace Provider

variable {σ : Type}

/-- The state of a provider after these calls. -/
def after (provider : Provider σ) (state : σ) (calls : List (Nat × List Item)) : σ :=
  calls.foldl (fun state call => (provider call.1 state call.2).2) state

theorem after_append (provider : Provider σ) (state : σ) (calls : List (Nat × List Item))
    (now : Nat) (items : List Item) :
    provider.after state (calls ++ [(now, items)])
      = (provider now (provider.after state calls) items).2 := by
  rw [after, List.foldl_append]
  rfl

/-- From this state on, what becomes of a call and when depends on its items and on how often they
were sent before, and on nothing else. -/
def CountsAttempts (provider : Provider σ) (state : σ) (reply : List Item → Nat → Reply) : Prop :=
  ∀ calls now items, (provider now (provider.after state calls) items).1
    = reply items ((calls.map (·.2)).count items)

/-- The provider that keeps what it was sent. -/
def counting (reply : List Item → Nat → Reply) : Provider (List (List Item)) :=
  fun _ sent items => (reply items (sent.count items), sent ++ [items])

theorem countsAttempts_counting (reply : List Item → Nat → Reply) :
    (counting reply).CountsAttempts [] reply := by
  have hafter : ∀ (calls : List (Nat × List Item)) (sent : List (List Item)),
      (counting reply).after sent calls = sent ++ calls.map (·.2) := by
    intro calls
    induction calls with
    | nil =>
      intro sent
      exact (List.append_nil sent).symm
    | cons call rest ih =>
      intro sent
      refine (ih (sent ++ [call.2])).trans ?_
      rw [List.append_assoc, List.singleton_append, List.map_cons]
  intro calls now items
  rw [hafter, List.nil_append]
  rfl

end Provider

/-! ## A request alone -/

namespace Dispatch.Task

variable {settings : DispatchSettings} {task : Task} {e : CallError}

theorem lt_of_triesAgain (h : task.triesAgain settings e = true) :
    task.attempts < max 1 settings.maxAttempts.toNat := by
  rw [triesAgain, Bool.and_eq_true] at h
  exact of_decide_eq_true h.2

end Dispatch.Task

namespace Request

open Dispatch

/-- The result of a request from this attempt on, when its attempts get these replies. -/
def resolve (settings : DispatchSettings) (replies : Nat → Reply) (r : Request) (attempt : Nat) :
    Result :=
  let reply := replies attempt
  match Task.outcome settings reply.result (settings.timeout.toNat < reply.millis) with
  | .ok response => r.result (attempt + 1) (r.answered response)
  | .error e =>
    if h : ({ request := r, attempts := attempt + 1 } : Task).triesAgain settings e then
      resolve settings replies r (attempt + 1)
    else r.result (attempt + 1) (r.failed e)
termination_by max 1 settings.maxAttempts.toNat - attempt
decreasing_by
  have hless : attempt + 1 < max 1 settings.maxAttempts.toNat := Task.lt_of_triesAgain h
  omega

/-- The result of a request whose attempts get these replies. -/
def alone (settings : DispatchSettings) (replies : Nat → Reply) (r : Request) : Result :=
  if r.items.isEmpty then r.result 0 {} else r.resolve settings replies 0

variable {settings : DispatchSettings} {replies : Nat → Reply} {r : Request} {attempt : Nat}

theorem resolve_of_ok {response : Response}
    (h : Task.outcome settings (replies attempt).result
      (settings.timeout.toNat < (replies attempt).millis) = .ok response) :
    r.resolve settings replies attempt = r.result (attempt + 1) (r.answered response) := by
  rw [resolve, h]

theorem resolve_of_error {e : CallError}
    (h : Task.outcome settings (replies attempt).result
      (settings.timeout.toNat < (replies attempt).millis) = .error e) :
    r.resolve settings replies attempt =
      if ({ request := r, attempts := attempt + 1 } : Task).triesAgain settings e then
        r.resolve settings replies (attempt + 1)
      else r.result (attempt + 1) (r.failed e) := by
  rw [resolve, h]
  rfl

theorem resolve_concurrency (settings : DispatchSettings) (concurrency : UInt64)
    (replies : Nat → Reply) (r : Request) (attempt : Nat) :
    r.resolve { settings with concurrency } replies attempt =
      r.resolve settings replies attempt := by
  -- the attempts are the same one by one
  induction attempt using resolve.induct settings replies r with
  | case1 attempt reply response hok =>
    have hok' : Task.outcome { settings with concurrency } reply.result
        (settings.timeout.toNat < reply.millis) = .ok response := hok
    rw [resolve_of_ok hok, resolve_of_ok hok']
  | case2 attempt reply e herror htries ih =>
    have herror' : Task.outcome { settings with concurrency } reply.result
        (settings.timeout.toNat < reply.millis) = .error e := herror
    rw [resolve_of_error herror, resolve_of_error herror', if_pos htries, ← ih]
    exact if_pos htries
  | case3 attempt reply e herror hlast =>
    have herror' : Task.outcome { settings with concurrency } reply.result
        (settings.timeout.toNat < reply.millis) = .error e := herror
    rw [resolve_of_error herror, resolve_of_error herror', if_neg hlast]
    exact if_neg hlast

/-- How many calls may be made at a time is nothing to a request alone. -/
theorem alone_concurrency (settings : DispatchSettings) (concurrency : UInt64)
    (replies : Nat → Reply) (r : Request) :
    r.alone { settings with concurrency } replies = r.alone settings replies := by
  rw [alone, alone, resolve_concurrency]

end Request

/-! ## A request among others -/

namespace Dispatch

variable {α σ : Type} {settings : DispatchSettings} {provider : Provider σ} {state present : σ}
  {reply : List Item → Nat → Reply} {w : World α σ} {items : List Item} {attempts : Nat}

/-- In its present state a provider got these items so many times. -/
def Sent (provider : Provider σ) (state present : σ) (items : List Item) (attempts : Nat) : Prop :=
  ∃ calls, present = provider.after state calls ∧ (calls.map (·.2)).count items = attempts

theorem Sent.reply_eq (hreply : provider.CountsAttempts state reply)
    (h : Sent provider state present items attempts) (now : Nat) :
    (provider now present items).1 = reply items attempts := by
  obtain ⟨calls, rfl, rfl⟩ := h
  exact hreply calls now items

/-- A call adds one to the number of its own items. -/
theorem Sent.called (h : Sent provider state present items attempts) (now : Nat)
    (others : List Item) :
    Sent provider state (provider now present others).2 items
      (attempts + if others = items then 1 else 0) := by
  obtain ⟨calls, rfl, rfl⟩ := h
  refine ⟨calls ++ [(now, others)],
    (Provider.after_append provider state calls now others).symm, ?_⟩
  rw [List.map_append, List.count_append, List.map_singleton, List.count_singleton]
  simp only [beq_iff_eq]

/-- What is left of a task leads to the result that its request has alone. -/
inductive Follows (settings : DispatchSettings) (replies : Nat → Reply) : Task → Prop
  | idle (r : Request) (attempt : Nat) (hleft : attempt < max 1 settings.maxAttempts.toNat)
      (h : r.resolve settings replies attempt = r.resolve settings replies 0) :
      Follows settings replies { request := r, attempts := attempt }
  | calling (r : Request) (attempt start : Nat)
      (h : r.resolve settings replies attempt = r.resolve settings replies 0) :
      Follows settings replies
        { request := r
          attempts := attempt + 1
          phase := .calling start (replies attempt).result
            (settings.timeout.toNat < (replies attempt).millis) }

/-- The items of a task were sent once for each of its attempts, and what is left of it leads to the
result that its request has alone. -/
structure OnTrack (settings : DispatchSettings) (provider : Provider σ) (state : σ)
    (reply : List Item → Nat → Reply) (requests : List Request) (w : World α σ) (i : Nat)
    (task : Task) : Prop where
  limiter : w.limiter = none
  request : requests[i]? = some task.request
  sent : Sent provider state w.provider task.request.items task.attempts
  follows : Follows settings (reply task.request.items) task

namespace Task

/-- Twice the attempts that are left, and one more for a call on its way. -/
def left (settings : DispatchSettings) (task : Task) : Nat :=
  let attempts := max 1 settings.maxAttempts.toNat - task.attempts
  match task.phase with
  | .calling _ _ _ => 2 * attempts + 1
  | _ => 2 * attempts

variable [Quantity α] {now i : Nat} {task : Task} {e : CallError} {called : Bool}

/-- Without a limiter nobody is paused. -/
theorem failed_of_limiter (hlimiter : w.limiter = none) :
    failed settings now i w task e called =
      (w, if task.triesAgain settings e then
          .sleep (now + task.delay settings e) { task with phase := .idle }
        else .done (task.request.result task.attempts (task.request.failed e))) := by
  rw [failed]
  split
  · dsimp only
    rw [pause, hlimiter]
    cases e.kind <;> rfl
  · rfl

theorem act_empty {r : Request} {phase : Phase} (hitems : r.items.isEmpty = true) :
    act settings provider now i w { request := r, attempts, phase }
      = (w, .done (r.result 0 {})) := by
  rw [act]
  dsimp only
  rw [if_pos hitems]

theorem act_idle {r : Request} (hlimiter : w.limiter = none) (hitems : ¬ r.items.isEmpty = true) :
    act settings provider now i w { request := r, attempts }
      = call settings provider now i w { request := r, attempts := attempts + 1 } := by
  rw [act]
  dsimp only
  rw [if_neg hitems, attempt, hlimiter]

theorem act_calling {r : Request} {start : Nat} {result : CallEnd} {cut : Bool}
    (hitems : ¬ r.items.isEmpty = true) :
    act settings provider now i w { request := r, attempts, phase := .calling start result cut }
      = finish settings now i w { request := r, attempts, phase := .calling start result cut } start
          result cut := by
  rw [act]
  dsimp only
  rw [if_neg hitems]

/-- Without a limiter a task does nothing to the world but call the provider. -/
theorem act_world (settings : DispatchSettings) (provider : Provider σ) (now i : Nat) (task : Task)
    (hlimiter : w.limiter = none) :
    (act settings provider now i w task).1.limiter = none ∧
      ((act settings provider now i w task).1.provider = w.provider ∨
        (act settings provider now i w task).1.provider
          = (provider now w.provider task.request.items).2) := by
  -- only the beginning of a call touches the provider
  rw [act]
  split
  · exact ⟨hlimiter, Or.inl rfl⟩
  · split
    · rw [attempt, hlimiter]
      exact ⟨hlimiter, Or.inr rfl⟩
    · rename_i hsome
      rw [hlimiter] at hsome
      cases hsome
    · exact ⟨hlimiter, Or.inr rfl⟩
    · rw [finish]
      split
      · exact ⟨hlimiter, Or.inl rfl⟩
      · rw [failed_of_limiter (by exact hlimiter)]
        exact ⟨hlimiter, Or.inl rfl⟩

end Task

variable [Quantity α] {requests : List Request}

/-- The task goes on as before with less to do, or ends with the result that its request has
alone. -/
theorem OnTrack.leads {i : Nat} {task : Task} (hreply : provider.CountsAttempts state reply)
    (h : OnTrack settings provider state reply requests w i task) (now : Nat) :
    (Task.act settings provider now i w task).2.Leads
      (fun next => OnTrack settings provider state reply requests
          (Task.act settings provider now i w task).1 i next ∧
        next.left settings < task.left settings)
      fun result => ∃ r, requests[i]? = some r ∧ result = r.alone settings (reply r.items) := by
  obtain ⟨r, attempts, phase⟩ := task
  obtain ⟨hlimiter, hr, hsent, hfollows⟩ := h
  dsimp only at hr hsent hfollows
  -- a request without items has its result at once
  by_cases hitems : r.items.isEmpty = true
  · rw [Task.act_empty hitems]
    refine ⟨r, hr, ?_⟩
    rw [Request.alone, if_pos hitems]
  have halone : r.alone settings (reply r.items) = r.resolve settings (reply r.items) 0 := by
    rw [Request.alone, if_neg hitems]
  cases hfollows with
  | idle _ _ hleft heq =>
    -- the call begins, and its reply is the one of this attempt
    rw [Task.act_idle hlimiter hitems]
    have hcalled := hsent.called now r.items
    rw [if_pos rfl] at hcalled
    refine ⟨⟨hlimiter, hr, hcalled, ?_⟩, ?_⟩
    · show Follows settings (reply r.items) { request := r, attempts := attempts + 1, phase := _ }
      rw [hsent.reply_eq hreply now]
      exact Follows.calling r attempts now heq
    · show 2 * (max 1 settings.maxAttempts.toNat - (attempts + 1)) + 1
        < 2 * (max 1 settings.maxAttempts.toNat - attempts)
      omega
  | calling _ attempt start heq =>
    rw [Task.act_calling hitems, Task.finish]
    split
    · -- the reply is an answer, with which the request ends alone as well
      rename_i response hok
      exact ⟨r, hr, (halone.trans (heq.symm.trans (Request.resolve_of_ok hok))).symm⟩
    · rename_i e herror
      have hresolve := Request.resolve_of_error (r := r) herror
      rw [Task.failed_of_limiter (by exact hlimiter)]
      by_cases htries : Task.triesAgain settings { request := r, attempts := attempt + 1 } e = true
      · -- the next attempt has yet to come
        rw [if_pos htries] at hresolve
        dsimp only
        rw [if_pos (by exact htries)]
        have hfollows :
            Follows settings (reply r.items) { request := r, attempts := attempt + 1 } :=
          Follows.idle r (attempt + 1) (Task.lt_of_triesAgain htries) (hresolve.symm.trans heq)
        exact ⟨⟨hlimiter, hr, hsent, hfollows⟩, Nat.lt_succ_self _⟩
      · -- no attempt is left, so the error is the result
        rw [if_neg htries] at hresolve
        dsimp only
        rw [if_neg (by exact htries)]
        exact ⟨r, hr, (halone.trans (heq.symm.trans hresolve)).symm⟩

/-- The other tasks stay as they are: what this one sends is not theirs. -/
theorem OnTrack.others {i j : Nat} {task other : Task}
    (hdistinct : (requests.map (·.items)).Nodup)
    (h : OnTrack settings provider state reply requests w i task) (now : Nat) (hne : j ≠ i)
    (hother : OnTrack settings provider state reply requests w j other) :
    OnTrack settings provider state reply requests (Task.act settings provider now i w task).1 j
      other := by
  obtain ⟨hlimiter, hstate⟩ := Task.act_world settings provider now i task h.limiter
  refine ⟨hlimiter, hother.request, ?_, hother.follows⟩
  rcases hstate with hstate | hstate
  · rw [hstate]
    exact hother.sent
  · -- two tasks of distinct requests have distinct items, so the call is not one of the other task
    have hitems : task.request.items ≠ other.request.items := by
      intro heq
      have hget : ∀ (k : Nat) (t : Task), requests[k]? = some t.request →
          (requests.map (·.items))[k]? = some t.request.items := by
        intro k t ht
        rw [List.getElem?_map, ht, Option.map_some]
      have hj := hget j other hother.request
      have hi := hget i task h.request
      rw [heq, ← hj] at hi
      obtain ⟨hlt, _⟩ := List.getElem?_eq_some_iff.1 hj
      exact hne ((List.getElem?_inj hlt hdistinct).1 hi.symm)
    have hcalled := hother.sent.called now task.request.items
    rw [if_neg hitems] at hcalled
    rw [hstate]
    exact hcalled

theorem keeps_onTrack (settings : DispatchSettings) (hreply : provider.CountsAttempts state reply)
    (hdistinct : (requests.map (·.items)).Nodup) :
    Schedule.Keeps (Task.act settings provider)
      (OnTrack (α := α) settings provider state reply requests)
      fun i result => ∃ r, requests[i]? = some r ∧ result = r.alone settings (reply r.items) := by
  refine ⟨?_, ?_⟩
  · intro now i w task h
    exact (h.leads hreply now).imp (fun _ hnext => hnext.1) fun _ hresult => hresult
  · intro now i w task h j other hne hother
    exact h.others hdistinct now hne hother

theorem lowers_left (settings : DispatchSettings) (hreply : provider.CountsAttempts state reply) :
    Schedule.Lowers (Task.act settings provider)
      (OnTrack (α := α) settings provider state reply requests) (Task.left settings) := by
  intro now i w task h
  exact ⟨Task.goesOn_of_limiter h.limiter,
    (h.leads hreply now).imp (fun _ hnext => hnext.2) fun _ _ => trivial⟩

/-- Without a limiter a dispatch ends, and each request has the result that it has alone. -/
theorem exists_ends (settings : DispatchSettings)
    (hreply : provider.CountsAttempts w.provider reply) (hlimiter : w.limiter = none)
    (hdistinct : (requests.map (·.items)).Nodup) (now : Nat) :
    ∃ report, Ends settings provider w now requests report ∧
      report.results = requests.map fun r => r.alone settings (reply r.items) := by
  have hgoing : ∀ i r, requests[i]? = some r →
      OnTrack settings provider w.provider reply requests w i { request := r } := by
    intro i r hr
    -- no task has sent anything yet
    exact ⟨hlimiter, hr, ⟨[], rfl, rfl⟩, Follows.idle r 0 (by omega) rfl⟩
  obtain ⟨report, hends, hresults⟩ :=
    exists_ends_of_lowers now (keeps_onTrack settings hreply hdistinct)
      (lowers_left settings hreply) hgoing
  have hmap : List.Forall₂ (fun result r => result = r.alone settings (reply r.items))
      report.results requests := hresults.flip
  rw [← List.forall₂_map_right_iff, List.forall₂_eq_eq_eq] at hmap
  exact ⟨report, hends, hmap⟩

/-- Without a limiter, and with a provider that counts attempts, a request among others with other
items gets the result that it gets alone, whatever the caps on calls are. Another provider may even
answer it there, as long as both reply to its items alike. -/
theorem isolated_result {σ' : Type} {provider' : Provider σ'} {reply' : List Item → Nat → Reply}
    {w' : World α σ'} {i : Nat} {r : Request} (settings : DispatchSettings) (concurrency : UInt64)
    (hreply : provider.CountsAttempts w.provider reply) (hlimiter : w.limiter = none)
    (hdistinct : (requests.map (·.items)).Nodup) (hr : requests[i]? = some r)
    (hreply' : provider'.CountsAttempts w'.provider reply') (hlimiter' : w'.limiter = none)
    (hagree : reply' r.items = reply r.items) (now now' : Nat) :
    ∃ report report' result, Ends settings provider w now requests report ∧
      Ends { settings with concurrency } provider' w' now' [r] report' ∧
      report.results[i]? = some result ∧ report'.results = [result] := by
  have hsingle : ([r].map (·.items)).Nodup := List.pairwise_singleton _ _
  obtain ⟨report, hends, hresults⟩ := exists_ends settings hreply hlimiter hdistinct now
  obtain ⟨report', hends', hresults'⟩ :=
    exists_ends { settings with concurrency } hreply' hlimiter' hsingle now'
  refine ⟨report, report', r.alone settings (reply r.items), hends, hends', ?_, ?_⟩
  · rw [hresults, List.getElem?_map, hr, Option.map_some]
  · rw [hresults', List.map_singleton, Request.alone_concurrency, hagree]

end Dispatch

/-! ## A provider that is late once -/

namespace Dispatch

namespace Flaky

open Breakdown (post)

/-- Is late on the first attempt, and then summarizes the first post. -/
def reply (items : List Item) (attempt : Nat) : Reply :=
  { millis := 10 * items.length
    result :=
      if attempt = 0 then .failed { kind := .timeout, message := "late" }
      else .answered [(1, .summary { text := "the first" })] }

/-- Breaks down over everything but the first post alone. -/
def brittle (items : List Item) (attempt : Nat) : Reply :=
  if items = [post 1] then reply items attempt else { millis := 0, result := .crashed none }

/-- Nothing was sent yet. -/
def world : World Float (List (List Item)) := { limiter := none, provider := [] }

/-- The first post alone. -/
def request : Request := { id := 0, items := [post 1], estimatedTokens := 10 }

end Flaky

open Breakdown (requests)

open Flaky in
theorem isolated_result_flaky :
    (Provider.counting reply).CountsAttempts world.provider reply ∧
      (Provider.counting brittle).CountsAttempts world.provider brittle ∧
      world.limiter = none ∧ (requests.map (·.items)).Nodup ∧ requests[3]? = some request ∧
      brittle request.items = reply request.items ∧
      ∃ report report' result, Ends {} (Provider.counting reply) world 0 requests report ∧
        Ends { concurrency := 9 } (Provider.counting brittle) world 5 [request] report' ∧
        report.results[3]? = some result ∧ report'.results = [result] := by
  have hreply := Provider.countsAttempts_counting reply
  have hbrittle := Provider.countsAttempts_counting brittle
  have hdistinct : (requests.map (·.items)).Nodup := by decide
  have hagree : brittle request.items = reply request.items := rfl
  exact ⟨hreply, hbrittle, rfl, hdistinct, rfl, hagree,
    isolated_result {} 9 hreply rfl hdistinct rfl hbrittle rfl hagree 0 5⟩

/-- The retries come between the calls for other requests. -/
example : (Dispatch.run {} (Provider.counting Flaky.reply) 60 Flaky.world 0 requests).bind
    (·.toOption.map fun report => (calls report.world.log).map (·.request)) =
      some [1, 0, 1, 3, 0, 3] := by
  decide +kernel

end Dispatch

end Precis
