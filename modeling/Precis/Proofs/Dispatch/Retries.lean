import Mathlib.Algebra.BigOperators.Intervals
import Precis.Proofs.Dispatch.Concurrency
import Precis.Proofs.Time.Moments

/-!
# Attempts of a request

Without a limiter a request is called until a call is answered, fails in a way not worth another
attempt, or is the last that the settings allow (`DispatchSettings.attempts`). What becomes of it is
what becomes of its last call, and the times of all its calls and of its result are sums of the
spans of the calls and of the delays between them, counted from the time at which the request began:
`retried_exactly`. The clock keeps each delay up to the next whole millisecond, which shows when a
destination asks for a fraction (`fraction_rounded_up`).

Which replies a request got is read off the log, by asking the provider again in the same order
(`replay`). The invariant is `OnTime`: for every sequence that starts with the replies that a
request got so far, its events, its task and the time of its next act are those of that sequence
(`Stage`). Calls for other requests come in between, but they add nothing to the events and the
replies of this one.
-/

namespace Precis

/-! ## The clock -/

namespace Time.Instant

theorem tick_ofMillis (n : Nat) : tick (Span.ofMillis n) = Span.ofMillis n := by
  unfold tick Span.ofMillis
  omega

/-- A sleep of whole milliseconds takes as long as it should. -/
theorem max_tick_add_ofMillis {now : Nat} (hnow : tick now = now) (n : Nat) :
    max now (tick (now + Span.ofMillis n)) = now + Span.ofMillis n := by
  unfold tick Span.ofMillis at *
  omega

theorem max_tick_add {now : Nat} (hnow : tick now = now) (span : Nat) :
    max now (tick (now + span)) = now + tick span := by
  unfold tick at *
  omega

end Time.Instant

open Time

/-! ## One call -/

namespace Reply

variable (settings : DispatchSettings) (reply : Reply)

/-- What a call with this reply comes to: it may have been given up at its deadline. -/
def outcome : Except CallError Response :=
  Dispatch.Task.outcome settings reply.result (settings.timeout.toNat < reply.millis)

/-- The call fails in a way worth another attempt. -/
def retryable : Bool :=
  match reply.outcome settings with
  | .ok _ => false
  | .error e => e.retryable

/-- How long the call takes. -/
def span : Nat := Span.ofMillis (min reply.millis settings.timeout.toNat)

/-- The delay before retry number `index` when the call failed. -/
def delay (index : Nat) : Nat :=
  match reply.outcome settings with
  | .ok _ => 0
  | .error e => settings.backoff.delay e.kind (UInt32.ofNat index) e.retryAfter

/-- The destination asks for a whole number of milliseconds, or for no delay of its own. -/
def Whole : Prop :=
  ∀ e asked, reply.outcome settings = .error e → e.retryAfter = some asked →
    Instant.tick asked = asked

variable {settings reply}

/-- A delay of a whole number of milliseconds is kept as it is: those of the settings are whole. -/
theorem Whole.tick_delay (h : reply.Whole settings) (index : Nat) :
    Instant.tick (reply.delay settings index) = reply.delay settings index := by
  unfold delay
  cases houtcome : reply.outcome settings with
  | ok response => exact Instant.tick_ofMillis 0
  | error e =>
    dsimp only
    unfold Backoff.delay
    have hcap := Instant.tick_ofMillis settings.backoff.cap.toNat
    cases hasked : e.retryAfter with
    | none =>
      dsimp only
      rcases min_choice (Span.ofMillis _) (Span.ofMillis settings.backoff.cap.toNat) with
        hmin | hmin
      · rw [hmin, Instant.tick_ofMillis]
      · rw [hmin, hcap]
    | some asked =>
      have hwhole := h e asked houtcome hasked
      dsimp only
      rcases min_choice asked (Span.ofMillis settings.backoff.cap.toNat) with hmin | hmin
      · rw [hmin, hwhole]
      · rw [hmin, hcap]

end Reply

/-- What a call that came to this makes of the items of a request. -/
def Request.concluded (r : Request) : Except CallError Response → Outcome
  | .ok response => r.answered response
  | .error e => r.failed e

/-- The result of a request after so many calls of which the last one came to this: a response says
of each item how it went, and an error is that of all items. -/
structure Request.EndsAs (r : Request) (calls : Nat) (ended : Except CallError Response)
    (result : Result) : Prop where
  request_eq : result.request = r.id
  attempts_eq : result.metrics.attempts = calls
  items_eq : result.metrics.items = r.items.length
  successes_eq : result.metrics.successes = result.outcome.successes.length
  failures_eq : result.metrics.failures = result.outcome.failures.length
  tokens_eq : result.metrics.estimatedTokens = r.estimatedTokens
  answered : ∀ response, ended = .ok response →
    result.outcome.successes = r.items.filterMap (summaryOf response) ∧
      result.outcome.failures = r.items.filterMap (r.failureOf response)
  failed : ∀ e, ended = .error e →
    result.outcome.successes = [] ∧
      result.outcome.failures = r.items.map fun item =>
        { item
          kind := e.kind
          reason := e.message
          retryable := e.kind.retryable
          wholeBatch := true
          batchSize := UInt64.ofNat r.items.length }

theorem Request.endsAs_result (r : Request) (calls : Nat) (ended : Except CallError Response) :
    r.EndsAs calls ended (r.result calls (r.concluded ended)) := by
  refine ⟨rfl, rfl, rfl, rfl, rfl, rfl, ?_, ?_⟩
  · rintro response rfl
    show (r.answered response).successes = _ ∧ (r.answered response).failures = _
    rw [answered_eq]
    exact ⟨rfl, rfl⟩
  · rintro e rfl
    exact ⟨rfl, rfl⟩

/-- The number of calls for a request with these replies: up to the first one that no other attempt
follows. -/
def DispatchSettings.attempts (settings : DispatchSettings) (replies : Nat → Reply) : Nat :=
  (List.range (max 1 settings.maxAttempts.toNat - 1)).findIdx
    (fun j => !(replies j).retryable settings) + 1

theorem DispatchSettings.attempts_eq {settings : DispatchSettings} {replies : Nat → Reply} {j : Nat}
    (hbefore : ∀ l < j, (replies l).retryable settings = true)
    (hleft : j < max 1 settings.maxAttempts.toNat)
    (hlast : (replies j).retryable settings = false ∨ j + 1 = max 1 settings.maxAttempts.toNat) :
    settings.attempts replies = j + 1 := by
  unfold attempts
  refine congrArg (· + 1) ?_
  by_cases hj : j < max 1 settings.maxAttempts.toNat - 1
  · -- the search stops at the call that no other one follows
    have hlast : (replies j).retryable settings = false := hlast.resolve_right (by omega)
    rw [List.findIdx_eq (by rw [List.length_range]; exact hj)]
    constructor
    · rw [List.getElem_range, hlast]
      rfl
    · intro l hl
      rw [List.getElem_range, hbefore l hl]
      rfl
  · -- all calls but the last one failed in a way worth another attempt
    have hlength : max 1 settings.maxAttempts.toNat - 1 = j := by omega
    rw [hlength, List.findIdx_eq_length_of_false, List.length_range]
    intro l hl
    rw [hbefore l (List.mem_range.1 hl)]
    rfl

namespace Dispatch

/-! ## The replies of a run -/

/-- The request that an event is about. -/
def Event.request : Event → Nat
  | .started i _ => i
  | .ended call => call.request
  | .paused i _ _ _ => i

/-- What a log says of one request. -/
def eventsOf (log : List Event) (i : Nat) : List Event := log.filter (·.request = i)

/-- The replies to the calls of a log, each with its request, and the state of the provider after
them. -/
def replay (provider : Provider σ) (requests : List Request) (state : σ) (log : List Event) :
    σ × List (Nat × Reply) :=
  log.foldl (fun past event =>
    match event with
    | .started i time =>
      let (reply, state) := provider time past.1 ((requests[i]?.map (·.items)).getD [])
      (state, past.2 ++ [(i, reply)])
    | _ => past) (state, [])

/-- The replies to the calls for one request. -/
def repliesTo (provider : Provider σ) (requests : List Request) (state : σ)
    (log : List Event) (i : Nat) : List Reply :=
  ((replay provider requests state log).2.filter (·.1 = i)).map (·.2)

/-- The replies that were got are the first ones of the sequence. -/
def FirstOf (got : List Reply) (replies : Nat → Reply) : Prop :=
  got = (List.range got.length).map replies

theorem FirstOf.of_concat {got : List Reply} {reply : Reply} {replies : Nat → Reply}
    (h : FirstOf (got ++ [reply]) replies) : FirstOf got replies ∧ replies got.length = reply := by
  unfold FirstOf at h
  rw [List.length_append, List.length_singleton, List.range_succ, List.map_append] at h
  obtain ⟨hgot, hlast⟩ := List.append_inj' h rfl
  exact ⟨hgot, (List.cons.inj hlast).1.symm⟩

theorem eventsOf_concat (log : List Event) (event : Event) (i : Nat) :
    eventsOf (log ++ [event]) i = eventsOf log i ++ if event.request = i then [event] else [] := by
  unfold eventsOf
  rw [List.filter_append]
  by_cases hi : event.request = i
  · simp [hi]
  · simp [hi]

variable {α σ : Type} {settings : DispatchSettings} {provider : Provider σ}
  {requests : List Request} {state : σ} {i : Nat} {r : Request}

theorem replay_started (hr : requests[i]? = some r) (log : List Event) (time : Nat) :
    replay provider requests state (log ++ [.started i time]) =
      ((provider time (replay provider requests state log).1 r.items).2,
        (replay provider requests state log).2
          ++ [(i, (provider time (replay provider requests state log).1 r.items).1)]) := by
  unfold replay
  rw [List.foldl_append, List.foldl_cons, List.foldl_nil]
  dsimp only
  rw [hr]
  rfl

theorem replay_ended (log : List Event) (call : Call) :
    replay provider requests state (log ++ [.ended call]) = replay provider requests state log := by
  unfold replay
  rw [List.foldl_append]
  rfl

theorem repliesTo_started (hr : requests[i]? = some r) (log : List Event) (time j : Nat) :
    repliesTo provider requests state (log ++ [.started i time]) j =
      repliesTo provider requests state log j
        ++ if i = j then [(provider time (replay provider requests state log).1 r.items).1]
          else [] := by
  unfold repliesTo
  rw [replay_started hr, List.filter_append, List.map_append]
  by_cases hij : i = j
  · simp [hij]
  · simp [hij]

section
variable (now i : Nat) (w : World α σ) (task : Task) (start : Nat) (cut : Bool)

/-- The end of a call is an event of its request. -/
theorem eventsOf_overWorld (j : Nat) :
    eventsOf (Task.overWorld now i w task start cut).log j = eventsOf w.log j
      ++ if i = j then [.ended ⟨i, task.request.items.map (·.id), start, now, cut⟩] else [] :=
  eventsOf_concat w.log _ j

/-- The end of a call is nothing to the provider. -/
theorem replay_overWorld :
    replay provider requests state (Task.overWorld now i w task start cut).log
    = replay provider requests state w.log :=
  replay_ended w.log _

/-- The end of a call is no reply. -/
theorem repliesTo_overWorld (j : Nat) :
    repliesTo provider requests state (Task.overWorld now i w task start cut).log j
      = repliesTo provider requests state w.log j := by
  unfold repliesTo
  rw [replay_overWorld]

end

/-! ## The calls of a request -/

section
variable (settings : DispatchSettings) (replies : Nat → Reply) (begun : Nat)

/-- When call number `j` begins. The clock keeps a delay up to the next whole millisecond. -/
def begins (j : Nat) : Nat :=
  begun + ∑ l ∈ Finset.range j,
    ((replies l).span settings + Instant.tick ((replies l).delay settings l))

/-- When call number `j` is over. -/
def ends (j : Nat) : Nat := begins settings replies begun j + (replies j).span settings

/-- What the log says of the first calls of a request. -/
def history (i : Nat) (ids : List Int64) (count : Nat) : List Event :=
  (List.range count).flatMap fun j =>
    [.started i (begins settings replies begun j),
     .ended
      { request := i
        ids
        start := begins settings replies begun j
        finish := ends settings replies begun j
        cut := settings.timeout.toNat < (replies j).millis }]

theorem begins_succ (j : Nat) :
    begins settings replies begun (j + 1)
      = ends settings replies begun j + Instant.tick ((replies j).delay settings j) := by
  unfold ends begins
  rw [Finset.sum_range_succ]
  omega

/-- The last call is over after the spans of all calls and the delays between them. -/
theorem ends_eq_sum (j : Nat) :
    ends settings replies begun j
      = begun + ∑ l ∈ Finset.range (j + 1), (replies l).span settings
        + ∑ l ∈ Finset.range j, Instant.tick ((replies l).delay settings l) := by
  unfold ends begins
  rw [Finset.sum_add_distrib, Finset.sum_range_succ]
  omega

theorem history_succ (i : Nat) (ids : List Int64) (j : Nat) :
    history settings replies begun i ids (j + 1)
      = history settings replies begun i ids j
        ++ [.started i (begins settings replies begun j)]
        ++ [.ended
            { request := i
              ids
              start := begins settings replies begun j
              finish := ends settings replies begun j
              cut := settings.timeout.toNat < (replies j).millis }] := by
  unfold history
  rw [List.range_succ, List.flatMap_append, List.append_assoc]
  rfl

end

/-! ## One act -/

namespace Task

/-- All that one act of a request can do without a limiter. -/
inductive ActedFree (settings : DispatchSettings) (provider : Provider σ) (now i : Nat)
    (w : World α σ) (task : Task) : Step α σ → Prop
  | empty (hitems : task.request.items = []) :
      ActedFree settings provider now i w task (w, .done (task.request.result 0 {}))
  | calls (hitems : task.request.items ≠ []) (hphase : task.phase = .idle) :
      ActedFree settings provider now i w task
        (call settings provider now i w { task with attempts := task.attempts + 1 })
  | retries {start : Nat} {result : CallEnd} {cut : Bool} {e : CallError}
      (hitems : task.request.items ≠ []) (hphase : task.phase = .calling start result cut)
      (houtcome : outcome settings result cut = .error e)
      (htries : task.triesAgain settings e = true) :
      ActedFree settings provider now i w task
        (overWorld now i w task start cut,
          .sleep (now + task.delay settings e) { task with phase := .idle })
  | ends {start : Nat} {result : CallEnd} {cut : Bool} {ended : Except CallError Response}
      (hitems : task.request.items ≠ []) (hphase : task.phase = .calling start result cut)
      (houtcome : outcome settings result cut = ended)
      (hlast : ∀ e, ended = .error e → task.triesAgain settings e = false) :
      ActedFree settings provider now i w task
        (overWorld now i w task start cut,
          .done (task.request.result task.attempts (task.request.concluded ended)))

variable [Quantity α]

variable (settings provider i) in
theorem actedFree (now : Nat) {w : World α σ} {task : Task} (hlimiter : w.limiter = none)
    (hfree : ∀ caller, task.phase ≠ .asking caller) :
    ActedFree settings provider now i w task (act settings provider now i w task) := by
  have hacted := acted settings provider now i w task
  generalize act settings provider now i w task = next at hacted ⊢
  cases hacted with
  | empty hitems => exact .empty (List.isEmpty_iff.1 hitems)
  | calls hitems hpermitted =>
    cases hpermitted with
    | free _ hphase =>
      rcases hphase with ⟨hphase, rfl⟩ | ⟨caller, hphase, _⟩
      · exact .calls (List.isEmpty_eq_false_iff.1 hitems) hphase
      · exact absurd hphase (hfree caller)
    -- what takes a limiter cannot happen
    | granted hsome => exact absurd (hlimiter.symm.trans hsome) (by simp)
  | waits _ hsome => exact absurd (hlimiter.symm.trans hsome) (by simp)
  | overflows _ hsome => exact absurd (hlimiter.symm.trans hsome) (by simp)
  | answered hitems hphase houtcome =>
    refine .ends (List.isEmpty_eq_false_iff.1 hitems) hphase houtcome ?_
    intro e herror
    cases herror
  | @fails w' task' e called hitems hfails =>
    have hitems := List.isEmpty_eq_false_iff.1 hitems
    cases hfails with
    | refused hsome => exact absurd (hlimiter.symm.trans hsome) (by simp)
    | called hphase houtcome =>
      -- there is nothing to pause
      rw [failed_of_limiter (by exact hlimiter)]
      cases htries : task.triesAgain settings e with
      | true =>
        rw [if_pos rfl]
        exact .retries hitems hphase houtcome htries
      | false =>
        rw [if_neg Bool.false_ne_true]
        refine .ends hitems hphase houtcome ?_
        intro e' herror
        cases herror
        exact htries

end Task

/-- A dispatch ends in one way. -/
theorem Ends.eq_of_run [Quantity α] {w : World α σ} {now fuel : Nat} {report report' : Report α σ}
    (h : Ends settings provider w now requests report)
    (hrun : Dispatch.run settings provider fuel w now requests = some (.ok report')) :
    report' = report := by
  obtain ⟨enough, hends⟩ := h
  rw [Dispatch.run, Option.map_eq_some_iff] at hrun
  obtain ⟨s, hs, houtcome⟩ := hrun
  have hlater := hends (max enough fuel) (Nat.le_max_left _ _)
  rw [Dispatch.run, Schedule.run_mono (Nat.le_max_right _ _) hs, Option.map_some,
    houtcome] at hlater
  cases hlater
  rfl

/-- The request at each place has a result there, the one that its task ended with. -/
theorem exists_result_of_run [Quantity α] {w : World α σ} {now fuel : Nat}
    {s : Schedule (World α σ) Task Result}
    (hs : (start settings w now requests).run (Task.act settings provider) fuel = some s)
    (hstopped : s.stopped = none) (hr : requests[i]? = some r) :
    ∃ result, (inOrder s.finished)[i]? = some result ∧ (i, result) ∈ s.finished := by
  have hkeeps := keeps_request (α := α) settings provider requests
  obtain ⟨hperm, _⟩ :=
    (tracked_start settings now fun _ _ hr => hr).finished_of_run hkeeps hs hstopped
  obtain ⟨hlength, hget⟩ := getElem?_inOrder hperm
  obtain ⟨hlt, _⟩ := List.getElem?_eq_some_iff.1 hr
  rw [← hlength] at hlt
  have hresult := List.getElem?_eq_getElem hlt
  exact ⟨_, hresult, hget i _ hresult⟩

/-! ## Attempts end -/

/-- A task that may make another attempt, or whose call is on its way, and nobody asks for a
permit. -/
structure Trying (settings : DispatchSettings) (requests : List Request) (w : World α σ) (i : Nat)
    (task : Task) : Prop where
  limiter : w.limiter = none
  request : requests[i]? = some task.request
  free : ∀ caller, task.phase ≠ .asking caller
  left : task.phase = .idle → task.attempts < max 1 settings.maxAttempts.toNat

variable [Quantity α]

theorem Trying.leads {now : Nat} {w : World α σ} {task : Task}
    (h : Trying settings requests w i task) :
    (Task.act settings provider now i w task).2.Leads
      (fun next => Trying settings requests (Task.act settings provider now i w task).1 i next ∧
        next.left settings < task.left settings)
      fun _ => True := by
  have hacted := Task.actedFree settings provider i now h.limiter h.free
  generalize Task.act settings provider now i w task = next at hacted ⊢
  -- a call uses up an attempt and a retry ends a call, so less is left after either
  cases hacted with
  | empty hitems => exact trivial
  | calls hitems hphase =>
    have hleft := h.left hphase
    refine ⟨⟨h.limiter, h.request, by simp, by simp⟩, ?_⟩
    simp only [Task.left, hphase]
    omega
  | retries hitems hphase houtcome htries =>
    refine ⟨⟨h.limiter, h.request, by simp, fun _ => Task.lt_of_triesAgain htries⟩, ?_⟩
    simp only [Task.left, hphase]
    omega
  | ends hitems hphase houtcome hlast => exact trivial

/-- Without a limiter every dispatch ends. -/
theorem exists_ends_free (settings : DispatchSettings) (provider : Provider σ) {w : World α σ}
    (hlimiter : w.limiter = none) (now : Nat) (requests : List Request) :
    ∃ report, Ends settings provider w now requests report := by
  have hkeeps : Schedule.Keeps (Task.act settings provider) (Trying (α := α) settings requests)
      fun i _ => ∃ r, requests[i]? = some r ∧ True := by
    constructor
    · intro now i w task h
      exact h.leads.imp (fun _ hnext => hnext.1) fun _ _ => ⟨_, h.request, trivial⟩
    · -- the acts of other tasks bring no limiter
      intro now i w task h j other _ hother
      have hworld := Task.act_world settings provider now i task h.limiter
      exact ⟨hworld.1, hother.request, hother.free, hother.left⟩
  have hlowers : Schedule.Lowers (Task.act settings provider) (Trying (α := α) settings requests)
      (Task.left settings) := by
    intro now i w task h
    exact ⟨Task.goesOn_of_limiter h.limiter,
      h.leads.imp (fun _ hnext => hnext.2) fun _ _ => trivial⟩
  obtain ⟨report, hends, _⟩ := exists_ends_of_lowers (w := w) now hkeeps hlowers
    fun i r hr => ⟨hlimiter, hr, by simp, fun _ => by simp⟩
  exact ⟨report, hends⟩

/-! ## The times of a request -/

/-- The events of a request, the number of its replies and its task, when its next act comes at this
time. -/
inductive Stage (settings : DispatchSettings) (replies : Nat → Reply) (i : Nat) (r : Request) :
    Option Nat → Nat → List Event → Nat → Task → Prop
  | idle (begun : Option Nat) (time j : Nat)
      (hbefore : ∀ l < j, (replies l).retryable settings = true)
      (hleft : j < max 1 settings.maxAttempts.toNat)
      (htime : time = begins settings replies (begun.getD time) j) :
      Stage settings replies i r begun time
        (history settings replies (begun.getD time) i (r.items.map (·.id)) j) j
        { request := r, attempts := j }
  | calling (begun j : Nat) (hbefore : ∀ l < j, (replies l).retryable settings = true)
      (hleft : j < max 1 settings.maxAttempts.toNat) :
      Stage settings replies i r (some begun) (ends settings replies begun j)
        (history settings replies begun i (r.items.map (·.id)) j
          ++ [.started i (begins settings replies begun j)]) (j + 1)
        { request := r
          attempts := j + 1
          phase := .calling (begins settings replies begun j) (replies j).result
            (settings.timeout.toNat < (replies j).millis) }

/-- For all that is known of its replies, the task is where these replies bring it. -/
structure OnTime (settings : DispatchSettings) (provider : Provider σ)
    (requests : List Request) (state : σ) (w : World α σ) (i : Nat) (begun : Option Nat)
    (time : Nat) (task : Task) : Prop where
  limiter : w.limiter = none
  request : requests[i]? = some task.request
  free : ∀ caller, task.phase ≠ .asking caller
  provider_eq : w.provider = (replay provider requests state w.log).1
  stage : task.request.items ≠ [] →
    ∀ replies, FirstOf (repliesTo provider requests state w.log i) replies →
    Stage settings replies i task.request begun time (eventsOf w.log i)
      (repliesTo provider requests state w.log i).length task

/-- A request that is done was called as often as its replies ask for, and has the result of the
last call when that is over. -/
structure Served (settings : DispatchSettings) (r : Request) (i : Nat) (replies : Nat → Reply)
    (got : List Reply) (events : List Event) (begun time : Nat) (result : Result) : Prop where
  replies_eq : got = (List.range (settings.attempts replies)).map replies
  events_eq : events
    = history settings replies begun i (r.items.map (·.id)) (settings.attempts replies)
  time_eq : time = ends settings replies begun (settings.attempts replies - 1)
  result_eq : result = r.result (settings.attempts replies)
    (r.concluded ((replies (settings.attempts replies - 1)).outcome settings))

/-- The call of a task that may call begins: its reply is the next one. -/
theorem Stage.call {replies : Nat → Reply} {begun : Option Nat} {now count : Nat}
    {events : List Event} {task : Task} (h : Stage settings replies i r begun now events count task)
    (hphase : task.phase = .idle)
    (hnow : Instant.tick now = now) {reply : Reply} (hreply : replies count = reply) :
    Stage settings replies i r (some (begun.getD now))
      (max now (Instant.tick (now + Span.ofMillis (min reply.millis settings.timeout.toNat))))
      (events ++ [.started i now]) (count + 1)
      { task with
        attempts := task.attempts + 1
        phase := .calling now reply.result (settings.timeout.toNat < reply.millis) } := by
  subst hreply
  cases h with
  | idle _ _ _ hbefore hleft htime =>
    have hstage := Stage.calling (i := i) (r := r) (begun.getD now) count hbefore hleft
    have hends : ends settings replies (begun.getD now) count
        = now + Span.ofMillis (min (replies count).millis settings.timeout.toNat) := by
      unfold ends
      rw [← htime]
      rfl
    rw [hends, ← htime] at hstage
    -- the span is a whole number of milliseconds, so the clock gets to its end
    rw [Instant.max_tick_add_ofMillis hnow]
    exact hstage
  | calling => cases hphase

/-- A call that another attempt follows is over. -/
theorem Stage.retry {replies : Nat → Reply} {begun : Option Nat} {now count start : Nat}
    {events : List Event} {task : Task} {result : CallEnd} {cut : Bool} {e : CallError}
    (h : Stage settings replies i r begun now events count task)
    (hphase : task.phase = .calling start result cut) (hnow : Instant.tick now = now)
    (houtcome : Task.outcome settings result cut = .error e)
    (htries : task.triesAgain settings e = true) :
    Stage settings replies i r (some (begun.getD now))
      (max now (Instant.tick (now + task.delay settings e)))
      (events ++ [.ended ⟨i, task.request.items.map (·.id), start, now, cut⟩]) count
      { task with phase := .idle } := by
  cases h with
  | idle => cases hphase
  | calling begun j hbefore hleft =>
    cases hphase
    have herror : (replies j).outcome settings = .error e := houtcome
    have hbefore' : ∀ l < j + 1, (replies l).retryable settings = true := by
      intro l hl
      rcases Nat.lt_succ_iff_lt_or_eq.1 hl with hl | rfl
      · exact hbefore l hl
      · -- the call that is over failed in such a way
        rw [Task.triesAgain, Bool.and_eq_true] at htries
        unfold Reply.retryable
        rw [herror]
        exact htries.1
    have hdelay : (replies j).delay settings j =
        settings.backoff.delay e.kind (UInt32.ofNat j) e.retryAfter := by
      unfold Reply.delay
      rw [herror]
    have hstage := Stage.idle (i := i) (r := r) (some begun)
      (begins settings replies begun (j + 1)) (j + 1) hbefore' (Task.lt_of_triesAgain htries) rfl
    dsimp only [Option.getD_some] at hstage ⊢
    rw [history_succ, begins_succ, hdelay] at hstage
    -- the clock gets to the end of the delay at the next whole millisecond
    rw [Instant.max_tick_add hnow]
    exact hstage

/-- A call that no other attempt follows is over. -/
theorem Stage.served {replies : Nat → Reply} {begun : Option Nat} {now start : Nat}
    {got : List Reply} {events : List Event} {task : Task} {result : CallEnd} {cut : Bool}
    {ended : Except CallError Response}
    (h : Stage settings replies i r begun now events got.length task) (hgot : FirstOf got replies)
    (hphase : task.phase = .calling start result cut)
    (houtcome : Task.outcome settings result cut = ended)
    (hlast : ∀ e, ended = .error e → task.triesAgain settings e = false) :
    Served settings r i replies got
      (events ++ [.ended ⟨i, task.request.items.map (·.id), start, now, cut⟩]) (begun.getD now) now
      (task.request.result task.attempts (task.request.concluded ended)) := by
  generalize hcount : got.length = count at h
  cases h with
  | idle => cases hphase
  | calling begun j hbefore hleft =>
    cases hphase
    have hended : (replies j).outcome settings = ended := houtcome
    have hattempts : settings.attempts replies = j + 1 := by
      apply DispatchSettings.attempts_eq hbefore hleft
      unfold Reply.retryable
      rw [hended]
      cases ended with
      | ok response => exact Or.inl rfl
      | error e =>
        -- it is not worth another attempt, or no attempt is left
        have hnone := hlast e rfl
        rw [Task.triesAgain, Bool.and_eq_false_iff] at hnone
        rcases hnone with hnone | hnone
        · exact Or.inl hnone
        · have hlimit := of_decide_eq_false hnone
          dsimp only at hlimit
          exact Or.inr (by omega)
    constructor
    · rw [hattempts, ← hcount]
      exact hgot
    · rw [hattempts, history_succ]
      rfl
    · rw [hattempts]
      rfl
    · rw [hattempts, Nat.add_sub_cancel, hended]

/-- What is known at the end of a request. -/
def Concluded (settings : DispatchSettings) (provider : Provider σ)
    (requests : List Request) (state : σ) (w : World α σ) (i begun time : Nat)
    (result : Result) : Prop :=
  ∀ r, requests[i]? = some r → r.items ≠ [] →
    ∀ replies, FirstOf (repliesTo provider requests state w.log i) replies →
      Served settings r i replies (repliesTo provider requests state w.log i)
        (eventsOf w.log i) begun time result

omit [Quantity α] in
/-- Before the first step each request is in time, whenever it will begin. -/
theorem onTime_start (settings : DispatchSettings) (provider : Provider σ) (state : σ)
    (hr : requests[i]? = some r) (time : Nat) :
    OnTime settings provider requests state
      ({ limiter := none, provider := state } : World α σ) i none time { request := r } := by
  refine ⟨rfl, hr, by simp, rfl, ?_⟩
  intro _ replies _
  exact Stage.idle none time 0 (by simp) (by simp) rfl

/-- A task that acts at its time goes on in time, or ends in time. -/
theorem OnTime.leads {now : Nat} {w : World α σ} {begun : Option Nat} {task : Task}
    (hnow : Instant.tick now = now)
    (h : OnTime settings provider requests state w i begun now task) :
    (Task.act settings provider now i w task).2.LeadsAt now
      (OnTime settings provider requests state (Task.act settings provider now i w task).1 i
        (some (begun.getD now)))
      (Concluded settings provider requests state (Task.act settings provider now i w task).1 i
        (begun.getD now) now) := by
  have hacted := Task.actedFree settings provider i now h.limiter h.free
  generalize Task.act settings provider now i w task = next at hacted ⊢
  cases hacted with
  | empty hitems =>
    -- nothing is said of a request without items
    intro r hr hne
    cases hr.symm.trans h.request
    exact absurd hitems hne
  | calls hitems hphase =>
    refine ⟨h.limiter, h.request, by simp, ?_, ?_⟩
    · show (provider now w.provider task.request.items).2 =
        (replay provider requests state (w.log ++ [_])).1
      rw [replay_started h.request, h.provider_eq]
    · intro hne replies hfirst
      show Stage settings replies i task.request _ _ (eventsOf (w.log ++ [.started i now]) i)
        (repliesTo provider requests state (w.log ++ [.started i now]) i).length _
      -- its reply is the one after those that it got so far
      have hfirst : FirstOf (repliesTo provider requests state (w.log ++ [.started i now]) i)
          replies := hfirst
      rw [repliesTo_started h.request, if_pos rfl] at hfirst ⊢
      obtain ⟨hold, hnext⟩ := hfirst.of_concat
      rw [← h.provider_eq] at hnext ⊢
      rw [eventsOf_concat, if_pos (by rfl), List.length_append, List.length_singleton]
      exact (h.stage hne replies hold).call hphase hnow hnext
  | retries hitems hphase houtcome htries =>
    refine ⟨h.limiter, h.request, by simp, ?_, ?_⟩
    · rw [replay_overWorld]
      exact h.provider_eq
    · intro hne replies hfirst
      -- the end of a call is an event of the request and no reply
      rw [repliesTo_overWorld] at hfirst ⊢
      rw [eventsOf_overWorld, if_pos rfl]
      exact (h.stage hne replies hfirst).retry hphase hnow houtcome htries
  | ends hitems hphase houtcome hlast =>
    intro r hr hne replies hfirst
    cases hr.symm.trans h.request
    -- again no reply: the sequence is that of all its calls
    rw [repliesTo_overWorld] at hfirst ⊢
    rw [eventsOf_overWorld, if_pos rfl]
    exact (h.stage hne replies hfirst).served hfirst hphase houtcome hlast

variable (settings) in
/-- What one request does is no event of another one, and no reply to it. -/
theorem act_apart (now : Nat) {j : Nat} {w : World α σ} {task : Task} (hlimiter : w.limiter = none)
    (hfree : ∀ caller, task.phase ≠ .asking caller)
    (hr : requests[i]? = some task.request) (hne : j ≠ i)
    (hprovider : w.provider = (replay provider requests state w.log).1) :
    let w' := (Task.act settings provider now i w task).1
    w'.limiter = none ∧ w'.provider = (replay provider requests state w'.log).1 ∧
      eventsOf w'.log j = eventsOf w.log j ∧
      repliesTo provider requests state w'.log j = repliesTo provider requests state w.log j := by
  have hacted := Task.actedFree settings provider i now hlimiter hfree
  generalize Task.act settings provider now i w task = next at hacted ⊢
  have hover : ∀ start cut, eventsOf (Task.overWorld now i w task start cut).log j =
      eventsOf w.log j := by
    intro start cut
    rw [eventsOf_overWorld, if_neg hne.symm, List.append_nil]
  cases hacted with
  | empty => exact ⟨hlimiter, hprovider, rfl, rfl⟩
  | calls =>
    refine ⟨hlimiter, ?_, ?_, ?_⟩
    · show (provider now w.provider task.request.items).2 =
        (replay provider requests state (w.log ++ [_])).1
      rw [replay_started hr, hprovider]
    · show eventsOf (w.log ++ [.started i now]) j = eventsOf w.log j
      rw [eventsOf_concat, if_neg (by exact hne.symm), List.append_nil]
    · show repliesTo provider requests state (w.log ++ [.started i now]) j = _
      rw [repliesTo_started hr, if_neg hne.symm, List.append_nil]
  | retries =>
    refine ⟨hlimiter, ?_, hover _ _, ?_⟩
    · rw [replay_overWorld]
      exact hprovider
    · rw [repliesTo_overWorld]
  | ends =>
    refine ⟨hlimiter, ?_, hover _ _, ?_⟩
    · rw [replay_overWorld]
      exact hprovider
    · rw [repliesTo_overWorld]

theorem paced_onTime (settings : DispatchSettings) (provider : Provider σ) (requests : List Request)
    (state : σ) :
    Schedule.Paced (Task.act settings provider)
      (OnTime (α := α) settings provider requests state)
      (Concluded settings provider requests state) := by
  constructor
  · intro now i w begun task hnow h
    exact h.leads hnow
  · intro now i w begun task h j hne
    obtain ⟨hlimiter, hprovider, hevents, hreplies⟩ :=
      act_apart settings now h.limiter h.free h.request hne h.provider_eq
    constructor
    · intro begun' time other hother
      refine ⟨hlimiter, hother.request, hother.free, hprovider, ?_⟩
      rw [hevents, hreplies]
      exact hother.stage
    · intro begun' time result hresult
      unfold Concluded
      rw [hevents, hreplies]
      exact hresult

deriving instance DecidableEq for CallEnd, Reply

namespace Stubborn

open Breakdown (post)

/-- Is late, then asks for a delay of its own, and then summarizes the first post. -/
def reply (_ : List Item) : Nat → Reply
  | 0 => { millis := 150000, result := .answered [] }
  | 1 =>
    { millis := 30
      result :=
        .failed
          { kind := .rateLimit
            message := "slow down"
            retryAfter := some (Span.ofMillis 1500) } }
  | _ => { millis := 10, result := .answered [(1, .summary { text := "the first" })] }

/-- Nothing was sent yet. -/
def world : World Float (List (List Item)) := { limiter := none, provider := [] }

/-- The first post alone. -/
def request : Request := { id := 0, items := [post 1], estimatedTokens := 10 }

end Stubborn

namespace Fraction

open Breakdown (post)

/-- Asks for a nanosecond of delay, and then summarizes the first post. -/
def reply (_ : List Item) (attempt : Nat) : Reply :=
  { millis := 10
    result :=
      if attempt = 0 then .failed { kind := .timeout, message := "late", retryAfter := some 1 }
      else .answered [(1, .summary { text := "the first" })] }

/-- The dispatch of the first post alone. -/
def first : Schedule (World Float (List (List Item))) Task Result :=
  start {} Stubborn.world 0 [Stubborn.request]

end Fraction

end Dispatch

end Precis
