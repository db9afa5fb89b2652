import Precis.Proofs.Dispatch.Acts
import Precis.Proofs.Dispatch.Isolation
import Precis.Proofs.Time.Course

/-!
# Calls at one time

At every moment of a dispatch at most as many calls are on their way as the settings allow, with a
limiter or without, and requests begin in the order in which they stand (`bounded_calls`). To begin
is to make the first attempt: to ask the limiter for a permit, or to call when there is none.

What a task holds is its call: `inFlight` reads off the log which calls were started and are not
over, and these are the calls of the tasks that are `calling` (`tallies_act`). A call that is given
up at its deadline is over.
-/

namespace Precis.Dispatch

open Time

/-- The requests whose calls were started and are not over, by the log. -/
def inFlight (log : List Event) : List Nat :=
  log.foldl (fun calling event =>
    match event with
    | .started i _ => i :: calling
    | .ended call => calling.erase call.request
    | .paused _ _ _ _ => calling) []

/-- A request is called for the first time only when all earlier ones with items were. -/
def CalledInOrder (requests : List Request) (log : List Event) : Prop :=
  ∀ before j time later, log = before ++ .started j time :: later →
    ∀ i r, i < j → requests[i]? = some r → r.items ≠ [] → ∃ time', .started i time' ∈ before

theorem inFlight_started (log : List Event) (i time : Nat) :
    inFlight (log ++ [.started i time]) = i :: inFlight log := by
  rw [inFlight, List.foldl_append]
  rfl

theorem inFlight_ended (log : List Event) (call : Call) :
    inFlight (log ++ [.ended call]) = (inFlight log).erase call.request := by
  rw [inFlight, List.foldl_append]
  rfl

theorem inFlight_paused (log : List Event) (i time span : Nat) (called : Bool) :
    inFlight (log ++ [.paused i time span called]) = inFlight log := by
  rw [inFlight, List.foldl_append]
  rfl

variable {α σ : Type} [Quantity α] {settings : DispatchSettings} {provider : Provider σ}
  {now i : Nat} {w : World α σ}

/-! ## The call of a task -/

namespace Task

/-- The call of the task is on its way. -/
def inCall (task : Task) : Bool :=
  !task.request.items.isEmpty && match task.phase with
    | .calling _ _ _ => true
    | _ => false

theorem inCall_idle {task : Task} (h : task.phase = .idle) : task.inCall = false := by
  rw [inCall, h, Bool.and_false]

theorem inCall_asking {task : Task} {caller : Caller} (h : task.phase = .asking caller) :
    task.inCall = false := by
  rw [inCall, h, Bool.and_false]

theorem inCall_calling {task : Task} {start : Nat} {result : CallEnd} {cut : Bool}
    (hitems : task.request.items.isEmpty = false) (h : task.phase = .calling start result cut) :
    task.inCall = true := by
  rw [inCall, h, hitems]
  rfl

omit [Quantity α] in
theorem Asks.inCall {l : Limiter α} {caller : Caller} {task task' : Task}
    (h : Asks now l task caller task') : task.inCall = false ∧ task'.request = task.request := by
  cases h with
  | first hphase => exact ⟨inCall_idle hphase, rfl⟩
  | further hphase => exact ⟨inCall_asking hphase, rfl⟩

/-- Who may call has no call yet, and the calls of the others stay. -/
theorem Permitted.inCall {w' : World α σ} {task task' : Task} (h : Permitted now w task w' task') :
    task.inCall = false ∧ task'.request = task.request ∧ w'.log = w.log := by
  cases h with
  | free hlimiter hphase =>
    -- it has not called yet, or it comes back from asking
    rcases hphase with ⟨hphase, rfl⟩ | ⟨caller, hphase, rfl⟩
    · exact ⟨inCall_idle hphase, rfl, rfl⟩
    · exact ⟨inCall_asking hphase, rfl, rfl⟩
  | granted hlimiter hasks hanswer => exact ⟨hasks.inCall.1, hasks.inCall.2, rfl⟩

theorem inFlight_pause (now i : Nat) (w : World α σ) (e : CallError) (span : Nat) (called : Bool) :
    inFlight (pause now i w e span called).log = inFlight w.log := by
  rcases pause_cases now i w e span called with ⟨l, _, _, h⟩ | ⟨_, h⟩
  · rw [h]
    exact inFlight_paused w.log i now span called
  · rw [h]

/-- A task that failed has no call on its way. -/
theorem ownNext_failed (settings : DispatchSettings) (now i : Nat) (w : World α σ) (task : Task)
    (e : CallError) (called : Bool) :
    Schedule.ownNext inCall i (failed settings now i w task e called).2 = [] ∧
      inFlight (failed settings now i w task e called).1.log = inFlight w.log := by
  rcases failed_cases settings now i w task e called with ⟨_, h⟩ | ⟨_, h⟩
  · rw [h]
    refine ⟨?_, inFlight_pause now i w e _ called⟩
    show Schedule.own inCall i { task with phase := .idle } = []
    rw [Schedule.own, inCall_idle rfl]
    rfl
  · rw [h]
    exact ⟨rfl, rfl⟩

omit [Quantity α] in
/-- When the call of a task is over, whether in time or given up, those of the others are left. -/
theorem inFlight_overWorld {task : Task} {start : Nat} {result : CallEnd} {cut : Bool}
    {others : List Nat} (hitems : task.request.items.isEmpty = false)
    (hphase : task.phase = .calling start result cut)
    (hheld : (inFlight w.log).Perm (Schedule.own inCall i task ++ others)) :
    (inFlight (overWorld now i w task start cut).log).Perm others := by
  rw [Schedule.own, inCall_calling hitems hphase] at hheld
  have herase := hheld.erase i
  rw [if_pos rfl, List.singleton_append, List.erase_cons_head] at herase
  rw [overWorld, inFlight_ended]
  exact herase

/-- The calls on their way are those of the tasks that are calling. -/
theorem tallies_act (settings : DispatchSettings) (provider : Provider σ) :
    Schedule.Tallies (act settings provider) (fun w : World α σ => inFlight w.log) inCall := by
  intro now i w task others hheld
  have hacted := acted settings provider now i w task
  generalize act settings provider now i w task = next at hacted ⊢
  cases hacted with
  | empty hitems =>
    -- a request without items never calls
    have hcall : task.inCall = false := by rw [inCall, hitems]; rfl
    rw [Schedule.own, hcall] at hheld
    exact hheld
  | @calls w' task' hitems hpermitted =>
    obtain ⟨hcall, hrequest, hlog⟩ := hpermitted.inCall
    rw [Schedule.own, hcall] at hheld
    rw [← hrequest] at hitems
    -- its own call comes to those of the others
    have hown : Schedule.ownNext inCall i (call settings provider now i w' task').2 = [i] := by
      show Schedule.own inCall i { task' with phase := .calling now _ _ } = [i]
      rw [Schedule.own, inCall_calling (by exact hitems) rfl]
      rfl
    have hflight : inFlight (call settings provider now i w' task').1.log =
        i :: inFlight w.log := by
      rw [← hlog]
      exact inFlight_started w'.log i now
    rw [hown]
    show (inFlight (call settings provider now i w' task').1.log).Perm (i :: others)
    rw [hflight]
    exact hheld.cons i
  | @waits l l' caller task' time hitems hlimiter hasks hanswer =>
    rw [Schedule.own, hasks.inCall.1] at hheld
    have hidle : Schedule.own inCall i { task' with phase := .asking caller } = [] := by
      rw [Schedule.own, inCall_asking rfl]
      rfl
    -- whether it asks again at once or sleeps, it has no call
    split
    · rw [Schedule.ownNext, hidle]
      exact hheld
    · rw [Schedule.ownNext, hidle]
      exact hheld
  | @overflows l l' caller task' overflow hitems hlimiter hasks hanswer =>
    rw [Schedule.own, hasks.inCall.1] at hheld
    rw [Schedule.ownNext, Schedule.own, inCall_asking rfl]
    exact hheld
  | answered hitems hphase houtcome =>
    exact inFlight_overWorld hitems hphase hheld
  | @fails w' task' e called hitems hfails =>
    obtain ⟨hown, hflight⟩ := ownNext_failed settings now i w' task' e called
    rw [hown]
    show (inFlight (failed settings now i w' task' e called).1.log).Perm others
    rw [hflight]
    cases hfails with
    | refused hlimiter hasks hanswer =>
      -- no call was made, so none is over
      rw [Schedule.own, hasks.inCall.1] at hheld
      exact hheld
    | called hphase houtcome =>
      exact inFlight_overWorld hitems hphase hheld

end Task

/-! ## First calls -/

theorem calledInOrder_nil (requests : List Request) : CalledInOrder requests [] := by
  intro before j time later h
  exact absurd h (by simp)

theorem CalledInOrder.concat {requests : List Request} {log : List Event} {event : Event}
    (h : CalledInOrder requests log)
    (hevent : ∀ j time, event = .started j time → ∀ i r, i < j → requests[i]? = some r →
      r.items ≠ [] → ∃ time', .started i time' ∈ log) :
    CalledInOrder requests (log ++ [event]) := by
  intro before j time later heq
  rcases Schedule.split_concat heq with ⟨rfl, hnew⟩ | ⟨later', hlog⟩
  · exact hevent j time hnew.symm
  · exact h before j time later' hlog

/-- Without a limiter an act of a request with items starts its call or ends it. -/
theorem Task.log_act (settings : DispatchSettings) (provider : Provider σ)
    (now i : Nat) (task : Task) (hlimiter : w.limiter = none) :
    task.request.items.isEmpty = true ∧ (act settings provider now i w task).1.log = w.log ∨
      (act settings provider now i w task).1.log = w.log ++ [.started i now] ∨
      task.phase ≠ .idle ∧
        ∃ call, (act settings provider now i w task).1.log = w.log ++ [.ended call] := by
  have hacted := acted settings provider now i w task
  generalize act settings provider now i w task = next at hacted ⊢
  cases hacted with
  | empty hitems => exact Or.inl ⟨hitems, rfl⟩
  | @calls w' task' _ hpermitted =>
    have hlog : (call settings provider now i w' task').1.log = w'.log ++ [.started i now] := rfl
    rw [hpermitted.inCall.2.2] at hlog
    exact Or.inr (Or.inl hlog)
  | waits _ hsome => exact absurd (hlimiter.symm.trans hsome) (by simp)
  | overflows _ hsome => exact absurd (hlimiter.symm.trans hsome) (by simp)
  | answered _ hphase =>
    right
    right
    exact ⟨by rw [hphase]; simp, _, rfl⟩
  | fails _ hfails =>
    cases hfails with
    | refused hsome => exact absurd (hlimiter.symm.trans hsome) (by simp)
    | called hphase =>
      right
      right
      rw [failed_of_limiter (by exact hlimiter)]
      exact ⟨by rw [hphase]; simp, _, rfl⟩

/-- Without a limiter a request with items that has begun was called, and first calls are in
order. -/
structure Called (requests : List Request) (acts : List Nat) (w : World α σ) : Prop where
  limiter : w.limiter = none
  begun : ∀ i r, i ∈ acts → requests[i]? = some r → r.items ≠ [] → ∃ time, .started i time ∈ w.log
  inOrder : CalledInOrder requests w.log

theorem Called.act {requests : List Request} {acts : List Nat} {task : Task}
    (h : Called requests acts w) (hbefore : ∀ j, j < i → j ∈ acts)
    (htask : i ∈ acts ∨ ∃ r, requests[i]? = some r ∧ task = { request := r }) :
    Called requests (acts ++ [i]) (Task.act settings provider now i w task).1 := by
  have hworld := (Task.act_world settings provider now i task h.limiter).1
  have hlog := Task.log_act settings provider now i task h.limiter
  generalize (Task.act settings provider now i w task).1 = world at hworld hlog ⊢
  obtain ⟨hlimiter, hbegun, hinOrder⟩ := h
  -- a request that is new in the list has just been called, unless it has no items
  have hnew : ∀ r, requests[i]? = some r → r.items ≠ [] → i ∉ acts →
      world.log = w.log ++ [.started i now] := by
    intro r hr hitems hi
    obtain ⟨r', hr', rfl⟩ := htask.resolve_left hi
    cases hr.symm.trans hr'
    rcases hlog with ⟨hempty, _⟩ | hlog | ⟨hphase, _⟩
    · exact absurd (List.isEmpty_iff.1 hempty) hitems
    · exact hlog
    · exact absurd rfl hphase
  have hgrows : ∃ new, world.log = w.log ++ new := by
    rcases hlog with ⟨_, hlog⟩ | hlog | ⟨_, call, hlog⟩
    · exact ⟨[], by rw [hlog, List.append_nil]⟩
    · exact ⟨_, hlog⟩
    · exact ⟨_, hlog⟩
  refine ⟨hworld, ?_, ?_⟩
  · intro j r hj hr hitems
    -- it had begun before, and the log only grows
    by_cases hacted : j ∈ acts
    · obtain ⟨time, hstarted⟩ := hbegun j r hacted hr hitems
      obtain ⟨new, hgrown⟩ := hgrows
      exact ⟨time, hgrown ▸ List.mem_append_left _ hstarted⟩
    · rcases List.mem_append.1 hj with hj | hj
      · exact absurd hj hacted
      · cases List.mem_singleton.1 hj
        rw [hnew r hr hitems hacted]
        exact ⟨now, List.mem_append_right _ (List.mem_singleton.2 rfl)⟩
  · rcases hlog with ⟨_, hlog⟩ | hlog | ⟨_, call, hlog⟩
    · -- nothing was called
      rw [hlog]
      exact hinOrder
    · rw [hlog]
      refine hinOrder.concat ?_
      intro j time hevent k r hk hr hitems
      cases hevent
      exact hbegun k r (hbefore k hk) hr hitems
    · -- a call that ends is not a first call
      rw [hlog]
      refine hinOrder.concat ?_
      intro j time hevent
      cases hevent

/-- At every moment without a limiter those that have begun were called, in order. -/
theorem called_after {requests : List Request} {state : σ} (settings : DispatchSettings)
    (provider : Provider σ) (now n : Nat) :
    let first := start settings ({ limiter := none, provider := state } : World α σ) now requests
    Called requests (Schedule.actors (Task.act settings provider) first n)
      (Schedule.after (Task.act settings provider) first n).world := by
  intro first
  have hlined : Schedule.Lined _ 0 first := Schedule.lined_start now _ _ _
  induction n with
  | zero =>
    refine ⟨rfl, ?_, calledInOrder_nil requests⟩
    intro i r hi
    exact absurd hi List.not_mem_nil
  | succ n ih =>
    rcases Schedule.after_succ (Task.act settings provider) first n with hstep | ⟨hstep, hsame⟩
    · have hfront := Schedule.front_eq_ready (Schedule.stopped_of_step hstep)
      rcases Schedule.step_cases hstep with ⟨i, task, rest, hready, ht⟩ | ⟨time, hready, _, ht⟩
      · -- the next task in line acts
        obtain ⟨hbefore, htask⟩ := hlined.front hready
        rw [Schedule.actors_succ_of_front (hfront.trans hready), ht, Schedule.world_moved]
        refine ih.act hbefore ?_
        rcases htask with hi | htask
        · exact Or.inl hi
        · rw [List.getElem?_map, Option.map_eq_some_iff] at htask
          obtain ⟨r, hr, rfl⟩ := htask
          exact Or.inr ⟨r, hr, rfl⟩
      · rw [Schedule.actors_succ_of_idle (hfront.trans hready), ht]
        exact ih
    · rw [Schedule.actors_succ_of_idle (Schedule.front_of_step_eq_none hstep), hsame]
      exact ih

/-! ## All moments of a run -/

/-- After any number of steps of a dispatch at most as many calls are on their way as the settings
allow, and the requests have begun in order. Without a limiter they have also been called in
order. -/
theorem bounded_calls (settings : DispatchSettings) (provider : Provider σ)
    (limiter : Option (Limiter α)) (state : σ) (now : Nat) (requests : List Request) (n : Nat) :
    let first := start settings { limiter, provider := state } now requests
    let log := (Schedule.after (Task.act settings provider) first n).world.log
    (inFlight log).length ≤ max 1 settings.concurrency.toNat ∧
      Schedule.InOrder (Schedule.actors (Task.act settings provider) first n) ∧
      (limiter = none → CalledInOrder requests log) := by
  intro first log
  have hidle : ∀ task ∈ requests.map fun request => ({ request } : Task), task.inCall = false := by
    intro task htask
    obtain ⟨r, _, rfl⟩ := List.mem_map.1 htask
    exact Task.inCall_idle rfl
  have hoccupied : Schedule.Occupied (fun w : World α σ => inFlight w.log) Task.inCall _ first :=
    Schedule.occupied_start now _ rfl hidle
  have hlined : Schedule.Lined _ 0 first := Schedule.lined_start now _ _ _
  refine ⟨?_, hlined.inOrder _ n, ?_⟩
  · exact (hoccupied.kept (Task.tallies_act settings provider) n).length_le
  · intro hlimiter
    subst hlimiter
    exact (called_after settings provider now n).inOrder

open Breakdown (requests) in
/-- Both places are taken; when the second call is over the last request takes its place, behind the
third one, which has no items. -/
theorem bounded_calls_breakdown :
    let act := Task.act (α := Float) {} Breakdown.provider
    let first := start {} { limiter := none, provider := 0 } 0 requests
    inFlight (Schedule.after act first 2).world.log = [1, 0] ∧
      inFlight (Schedule.after act first 6).world.log = [3, 0] ∧
      Schedule.actors act first 6 = [0, 1, 1, 2, 3] ∧
      (inFlight (Schedule.after act first 6).world.log).length ≤ 2 ∧
      Schedule.InOrder (Schedule.actors act first 6) ∧
      CalledInOrder requests (Schedule.after act first 6).world.log := by
  have h := bounded_calls (α := Float) {} Breakdown.provider none 0 0 requests 6
  exact ⟨by decide +kernel, by decide +kernel, by decide +kernel, h.1, h.2.1, h.2.2 rfl⟩

end Precis.Dispatch
