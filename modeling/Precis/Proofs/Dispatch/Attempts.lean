import Mathlib.Algebra.BigOperators.Ring.Finset
import Precis.Proofs.Dispatch.Concurrency
import Precis.Proofs.Dispatch.Pauses
import Precis.Proofs.Time.Balance

/-!
# Attempts and calls

The attempts that the results of a dispatch count are the calls that were made and the attempts that
ended without a call, as no permit would have come in time: `attempts_counted`. So without a limiter
they are the calls, and with one they need not be (`attempts_exceed_calls`).

The account is kept over all requests together (`balances_tried`). A request that waits for a permit
has counted its attempt already, and is owed one call or one refusal; the others have had a call or
a refusal for each of their attempts.
-/

namespace Precis.Dispatch

open Time

/-- The call of a request begins. -/
def Event.isCall : Event → Bool
  | .started _ _ => true
  | _ => false

variable {α σ : Type} [Quantity α] {settings : DispatchSettings} {provider : Provider σ}
  {now i : Nat} {w : World α σ} {task : Task}

/-- The number of calls that were made. -/
def World.calls (w : World α σ) : Nat := w.log.countP Event.isCall

namespace Task

/-- The attempt of the task ends without a call, because no permit would come in time. -/
def isRefused (now : Nat) (w : World α σ) (task : Task) : Bool :=
  !task.request.items.isEmpty &&
    match task.phase, w.limiter with
    | .idle, some l => (l.ask (l.caller now) now).1 = .refused
    | .asking caller, some l => (l.ask caller now).1 = .refused
    | _, _ => false

/-- The attempts of the task that had a call or a refusal. -/
def tried (task : Task) : Int :=
  if task.request.items.isEmpty then 0
  else
    match task.phase with
    | .asking _ => task.attempts - 1
    | _ => task.attempts

theorem Asks.isRefused_eq {l : Limiter α} {caller : Caller} {task' : Task}
    (hitems : task.request.items.isEmpty = false) (hlimiter : w.limiter = some l)
    (h : Asks now l task caller task') :
    task.isRefused now w = decide ((l.ask caller now).1 = .refused) := by
  unfold isRefused
  cases h with
  | first hphase => simp only [hitems, hphase, hlimiter, Bool.not_false, Bool.true_and]
  | further hphase => simp only [hitems, hphase, hlimiter, Bool.not_false, Bool.true_and]

theorem isRefused_of_limiter (hlimiter : w.limiter = none) : task.isRefused now w = false := by
  unfold isRefused
  rw [hlimiter]
  cases task.phase <;> simp

theorem isRefused_calling {start : Nat} {result : CallEnd} {cut : Bool}
    (hphase : task.phase = .calling start result cut) : task.isRefused now w = false := by
  unfold isRefused
  simp only [hphase, Bool.and_false]

omit [Quantity α] in
/-- A task that asks has counted one attempt more than it had calls and refusals. -/
theorem Asks.attempts_eq {l : Limiter α} {caller : Caller} {task' : Task}
    (hitems : task.request.items.isEmpty = false) (h : Asks now l task caller task') :
    (task'.attempts : Int) = task.tried + 1 ∧ task'.request = task.request := by
  unfold tried
  cases h with
  | first hphase =>
    rw [hitems, hphase]
    exact ⟨by simp, rfl⟩
  | further hphase =>
    rw [hitems, hphase]
    exact ⟨by simp, rfl⟩

omit [Quantity α] in
/-- While a task waits for its permit the attempt is counted, and is owed a call or a refusal. -/
theorem Asks.tried_asking {l : Limiter α} {caller : Caller} {task' : Task}
    (hitems : task.request.items.isEmpty = false) (h : Asks now l task caller task') :
    tried { task' with phase := .asking caller } = task.tried := by
  obtain ⟨hattempts, hrequest⟩ := h.attempts_eq hitems
  unfold tried at hattempts ⊢
  rw [if_neg (by simpa [hrequest] using hitems)]
  dsimp only
  omega

theorem tried_calling {start : Nat} {result : CallEnd} {cut : Bool}
    (hitems : task.request.items.isEmpty = false)
    (hphase : task.phase = .calling start result cut) : task.tried = task.attempts := by
  unfold tried
  rw [hitems, hphase]
  rfl

/-- A task that may call is not refused, and has counted one attempt more than it had calls and
refusals. -/
theorem Permitted.attempts_eq {w' : World α σ} {task' : Task}
    (hitems : task.request.items.isEmpty = false) (h : Permitted now w task w' task') :
    (task'.attempts : Int) = task.tried + 1 ∧ task'.request = task.request ∧
      task.isRefused now w = false ∧ w'.log = w.log := by
  cases h with
  | free hlimiter hphase =>
    have hrefused : task.isRefused now w = false := isRefused_of_limiter hlimiter
    unfold tried
    -- either its first attempt, or one after a pause; both have counted the attempt about to begin
    rcases hphase with ⟨hphase, rfl⟩ | ⟨caller, hphase, rfl⟩
    · rw [hitems, hphase]
      exact ⟨by simp, rfl, hrefused, rfl⟩
    · rw [hitems, hphase]
      exact ⟨by simp, rfl, hrefused, rfl⟩
  | granted hlimiter hasks hanswer =>
    obtain ⟨hattempts, hrequest⟩ := hasks.attempts_eq hitems
    refine ⟨hattempts, hrequest, ?_, rfl⟩
    rw [hasks.isRefused_eq hitems hlimiter, hanswer]
    rfl

/-- What a result counts. -/
def counted (result : Result) : Int := result.metrics.attempts

variable (settings now i w) in
/-- A task that failed is worth the attempts that it counted, whether it goes on or not, and no call
begins. -/
theorem worth_failed (hitems : task.request.items.isEmpty = false) (e : CallError) (called : Bool) :
    (failed settings now i w task e called).2.worth tried counted = task.attempts ∧
      (failed settings now i w task e called).1.calls = w.calls := by
  rcases failed_cases settings now i w task e called with ⟨_, h⟩ | ⟨_, h⟩
  · -- it goes on: what it tried so far are its attempts, and pausing the limiter is not a call
    rw [h]
    refine ⟨?_, ?_⟩
    · show tried { task with phase := .idle } = task.attempts
      unfold tried
      rw [if_neg (by simpa using hitems)]
    · rcases pause_cases now i w e (task.delay settings e) called with
        ⟨l, _, _, hpause⟩ | ⟨_, hpause⟩
      · rw [hpause]
        unfold World.calls
        rw [List.countP_append]
        rfl
      · rw [hpause]
  · -- it gives up, with a result that holds the same count
    rw [h]
    exact ⟨rfl, rfl⟩

omit [Quantity α] in
theorem calls_overWorld (start : Nat) (cut : Bool) :
    (overWorld now i w task start cut).calls = w.calls := by
  unfold World.calls overWorld
  rw [List.countP_append]
  rfl

/-- Each act that is no refusal adds as many calls to the log as attempts to its request. -/
theorem balances_tried (settings : DispatchSettings) (provider : Provider σ) :
    Schedule.Balances (act settings provider) tried counted (fun w : World α σ => (w.calls : Int))
      isRefused := by
  intro now i w task
  have hacted := acted settings provider now i w task
  generalize act settings provider now i w task = next at hacted ⊢
  dsimp only
  cases hacted with
  | empty hitems =>
    -- nothing to ask for, so nothing was tried
    have hrefused : task.isRefused now w = false := by
      unfold isRefused
      rw [hitems]
      rfl
    have htried : task.tried = 0 := by
      unfold tried
      rw [if_pos hitems]
    rw [hrefused, htried]
    rfl
  | @calls w' task' hitems hpermitted =>
    -- the call that begins is paid for by the attempt that asking counted
    obtain ⟨hattempts, hrequest, hrefused, hlog⟩ := hpermitted.attempts_eq hitems
    have hcount : (call settings provider now i w' task').1.calls = w.calls + 1 := by
      show (w'.log ++ [Event.started i now]).countP Event.isCall = _
      rw [hlog, List.countP_append]
      rfl
    have hworth : (call settings provider now i w' task').2.worth tried counted = task'.attempts :=
      tried_calling (by exact hrequest ▸ hitems) rfl
    rw [hcount, hworth, hrefused, if_neg Bool.false_ne_true]
    push_cast
    omega
  | @waits l l' caller task' time hitems hlimiter hasks hanswer =>
    have hrefused : task.isRefused now w = false := by
      rw [hasks.isRefused_eq hitems hlimiter, hanswer]
      rfl
    have htried := hasks.tried_asking hitems
    rw [hrefused, if_neg Bool.false_ne_true, Int.add_zero]
    split
    · rw [Move.worth, htried]
      rfl
    · rw [Move.worth, htried]
      rfl
  | @overflows l l' caller task' overflow hitems hlimiter hasks hanswer =>
    have hrefused : task.isRefused now w = false := by
      rw [hasks.isRefused_eq hitems hlimiter, hanswer]
      rfl
    -- asking fails as if the caller waited on, so the count is owed as before
    rw [hrefused, if_neg Bool.false_ne_true, Int.add_zero, Move.worth, hasks.tried_asking hitems]
    rfl
  | answered hitems hphase houtcome =>
    -- the call was counted when it began
    rw [calls_overWorld, isRefused_calling hphase, tried_calling hitems hphase]
    rfl
  | @fails w' task' e called hitems hfails =>
    cases hfails with
    | @refused l l' caller _ hlimiter hasks hanswer =>
      -- this is the only act that counts as a refusal; it pays for the attempt instead of a call
      obtain ⟨hattempts, hrequest⟩ := hasks.attempts_eq hitems
      have hrefused : task.isRefused now w = true := by
        rw [hasks.isRefused_eq hitems hlimiter, hanswer]
        rfl
      have hitems' : task'.request.items.isEmpty = false := by rw [hrequest]; exact hitems
      obtain ⟨hworth, hcount⟩ := worth_failed settings now i { w with limiter := some l' } hitems'
        (refusal l') false
      have hsame : ({ w with limiter := some l' } : World α σ).calls = w.calls := rfl
      rw [hworth, hcount, hrefused, if_pos rfl, hsame]
      omega
    | called hphase houtcome =>
      obtain ⟨hworth, hcount⟩ :=
        worth_failed settings now i (overWorld now i w task _ _) hitems e true
      rw [hworth, hcount, calls_overWorld, isRefused_calling hphase, tried_calling hitems hphase]
      rfl

end Task

/-! ## A dispatch -/

omit [Quantity α] in
/-- Before the first step nothing was tried. -/
theorem total_start (settings : DispatchSettings) (w : World α σ) (now : Nat)
    (requests : List Request) :
    (start settings w now requests).total Task.tried Task.counted = 0 := by
  unfold start
  rw [Schedule.total_start, List.map_map]
  refine List.sum_eq_zero ?_
  intro x hx
  obtain ⟨r, _, rfl⟩ := List.mem_map.1 hx
  show (if r.items.isEmpty then 0 else ((0 : Nat) : Int)) = 0
  rw [Int.natCast_zero, ite_self]

/-- The results are counted in any order. -/
theorem sum_inOrder {β : Type} [AddCommMonoid β] (finished : List (Nat × Result))
    (count : Result → β) :
    ((inOrder finished).map count).sum = (finished.map fun x => count x.2).sum := by
  unfold inOrder
  rw [List.map_map]
  exact ((List.mergeSort_perm finished _).map _).sum_eq

/-- Without a limiter no attempt is refused. -/
theorem refusals_eq_zero (settings : DispatchSettings) (provider : Provider σ)
    (state : σ) (now : Nat) (requests : List Request) (steps : Nat) :
    Schedule.occurrences (Task.act settings provider)
      (start settings ({ limiter := none, provider := state } : World α σ) now requests)
      Task.isRefused steps = 0 := by
  have hact : ∀ now i (w : World α σ) task, w.limiter = none →
      (Task.act settings provider now i w task).1.limiter = none := by
    intro now i w task h
    exact (Task.act_world settings provider now i task h).1
  apply Schedule.occurrences_eq_zero
  intro m task
  apply Task.isRefused_of_limiter
  exact Schedule.world_after (P := fun w : World α σ => w.limiter = none) hact rfl m

/-- When a dispatch ends, its results count the calls that were made and the attempts that were
refused a permit in time. Without a limiter no attempt is refused, so they count the calls. -/
theorem attempts_counted {fuel : Nat} {limiter : Option (Limiter α)} {state : σ}
    {requests : List Request} {report : Report α σ}
    (hrun : Dispatch.run settings provider fuel { limiter, provider := state } now requests =
      some (.ok report)) :
    let first := start settings { limiter, provider := state } now requests
    let refusals := Schedule.occurrences (Task.act settings provider) first Task.isRefused fuel
    (report.results.map (·.metrics.attempts)).sum = report.world.calls + refusals ∧
      (limiter = none → refusals = 0) := by
  intro first refusals
  obtain ⟨s, hs, hstopped, rfl⟩ := run_eq_ok hrun
  have hkeeps := keeps_request (α := α) settings provider requests
  have htracked := (tracked_start (w := ({ limiter, provider := state } : World α σ)) settings now
    fun _ _ hr => hr).run hkeeps fuel hs
  obtain ⟨hafter, hend⟩ := Schedule.after_of_run hs
  constructor
  · have hbalance := Schedule.total_after (Task.balances_tried settings provider) first fuel
    rw [hafter, htracked.1.total_of_end hstopped hend, ← sum_inOrder] at hbalance
    have hcalls : (first.world.calls : Int) = 0 := rfl
    -- the results are counted in the order of the requests, the account in the order they came
    have hsum : ((((inOrder s.finished).map (·.metrics.attempts)).sum : Nat) : Int)
        = ((inOrder s.finished).map Task.counted).sum := by
      rw [Nat.cast_list_sum, List.map_map]
      rfl
    rw [total_start, hcalls] at hbalance
    show ((inOrder s.finished).map (·.metrics.attempts)).sum = s.world.calls + refusals
    omega
  · rintro rfl
    exact refusals_eq_zero settings provider state now requests fuel

open Hurried in
/-- Three requests share one permit in two seconds. Of seven attempts two are calls: the first
request has one, the last one has one after it was refused twice, and the second is refused three
times and has none. -/
theorem attempts_counted_hurried : ∃ report,
    Dispatch.run {} obliging 100 world 0 requests = some (.ok report) ∧
    report.world.calls = 2 ∧
    (report.results.map (·.metrics.attempts)).sum = report.world.calls
      + Schedule.occurrences (Task.act {} obliging) (start {} world 0 requests) Task.isRefused 100 ∧
    Schedule.occurrences (Task.act {} obliging)
      (start {} world 0 requests) Task.isRefused 100 = 5 := by
  have hcalls : (Dispatch.run {} obliging 100 world 0 requests).bind
      (·.toOption.map (·.world.calls)) = some 2 := by
    decide +kernel
  obtain ⟨report, hrun, hreport⟩ := exists_ok_of_bind hcalls
  exact ⟨report, hrun, hreport, (attempts_counted hrun).1, by decide +kernel⟩

namespace Turnaway

open Time.Span (ofSeconds)

/-- One call at a time, and one attempt for each request. -/
def oneAttempt : DispatchSettings := { concurrency := 1, maxAttempts := 1 }

/-- One permit in a minute, for which nobody waits longer than a second. -/
def world : World Rat Unit :=
  { limiter := some (.new "api" { rate := 1 / 60, burst := 1, timeout := some (ofSeconds 1) } 0)
    provider := () }

/-- Two posts. -/
def requests : List Request := [Hurried.request 0 1, Hurried.request 1 2]

end Turnaway

open Turnaway in
/-- The second request gets no permit and is not called, and yet its result counts an attempt. -/
theorem attempts_exceed_calls : ∃ report,
    Dispatch.run oneAttempt Hurried.obliging 20 world 0 requests = some (.ok report) ∧
      (report.results.map (·.metrics.attempts)).sum ≠ report.world.calls := by
  have hcounts :
      ((start oneAttempt world 0 requests).run (Task.act oneAttempt Hurried.obliging) 20).map
      (fun s => ((s.finished.map (·.2.metrics.attempts)).sum, s.world.calls, s.stopped)) =
        some (2, 1, none) := by
    decide +kernel
  obtain ⟨s, hs, hcounts⟩ := Option.map_eq_some_iff.1 hcounts
  obtain ⟨hattempts, hcounts⟩ := Prod.mk.inj hcounts
  obtain ⟨hcalls, hstopped⟩ := Prod.mk.inj hcounts
  refine ⟨{ now := s.now, world := s.world, results := inOrder s.finished }, ?_, ?_⟩
  · rw [Dispatch.run, hs, Option.map_some, Schedule.outcome, hstopped]
    rfl
  · rw [sum_inOrder, hattempts, hcalls]
    decide

end Precis.Dispatch
