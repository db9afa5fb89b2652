import Precis.Dispatch.Basic
import Precis.Proofs.Time.Schedule

/-!
# What a request does in one step

`Task.acted` lists all that one act of a request can do, with what it asked the limiter and what it
was told. An attempt ends with an error when no permit comes in time or when its call is over and
has failed (`Task.Fails`); then the request either tries again, or ends with the error for all its
items.
-/

namespace Precis.Dispatch

open Time

variable {α σ : Type} [Quantity α] {settings : DispatchSettings} {provider : Provider σ}
  {now i : Nat} {w : World α σ} {task : Task}

namespace Task

/-- The caller that a task is when it asks the limiter, and the task as it asks. -/
inductive Asks (now : Nat) (l : Limiter α) (task : Task) : Caller → Task → Prop
  /-- A new attempt asks for the first time. -/
  | first (hphase : task.phase = .idle) :
      Asks now l task (l.caller now) { task with attempts := task.attempts + 1 }
  | further {caller : Caller} (hphase : task.phase = .asking caller) : Asks now l task caller task

/-- The task may make its call: without a limiter at once, and else with a permit. The world has the
limiter after it was asked. -/
inductive Permitted (now : Nat) (w : World α σ) (task : Task) : World α σ → Task → Prop
  | free {task' : Task} (hlimiter : w.limiter = none)
      (hphase : task.phase = .idle ∧ task' = { task with attempts := task.attempts + 1 } ∨
        ∃ caller, task.phase = .asking caller ∧ task' = task) :
      Permitted now w task w task'
  | granted {l l' : Limiter α} {caller : Caller} {task' : Task} (hlimiter : w.limiter = some l)
      (hasks : Asks now l task caller task') (hanswer : l.ask caller now = (.granted, l')) :
      Permitted now w task { w with limiter := some l' } task'

/-- The error of a task that got no permit in time. -/
def refusal (l : Limiter α) : CallError := { kind := .rateLimit, message := l.noPermit.message }

/-- The world after a call of the task is over. -/
def overWorld (now i : Nat) (w : World α σ) (task : Task) (start : Nat) (cut : Bool) : World α σ :=
  { w with log := w.log ++ [.ended ⟨i, task.request.items.map (·.id), start, now, cut⟩] }

/-- The attempt of a task ends with an error, which leaves the world so. The last argument says
whether the error came from a call. -/
inductive Fails (settings : DispatchSettings) (now i : Nat) (w : World α σ) (task : Task) :
    World α σ → Task → CallError → Bool → Prop
  | refused {l l' : Limiter α} {caller : Caller} {task' : Task} (hlimiter : w.limiter = some l)
      (hasks : Asks now l task caller task') (hanswer : l.ask caller now = (.refused, l')) :
      Fails settings now i w task { w with limiter := some l' } task' (refusal l') false
  | called {start : Nat} {result : CallEnd} {cut : Bool} {e : CallError}
      (hphase : task.phase = .calling start result cut)
      (houtcome : outcome settings result cut = .error e) :
      Fails settings now i w task (overWorld now i w task start cut) task e true

/-- All that one act of a request can do. -/
inductive Acted (settings : DispatchSettings) (provider : Provider σ) (now i : Nat) (w : World α σ)
    (task : Task) : Step α σ → Prop
  | empty (hitems : task.request.items.isEmpty = true) :
      Acted settings provider now i w task (w, .done (task.request.result 0 {}))
  | calls {w' : World α σ} {task' : Task} (hitems : task.request.items.isEmpty = false)
      (hpermitted : Permitted now w task w' task') :
      Acted settings provider now i w task (call settings provider now i w' task')
  | waits {l l' : Limiter α} {caller : Caller} {task' : Task} {time : Nat}
      (hitems : task.request.items.isEmpty = false) (hlimiter : w.limiter = some l)
      (hasks : Asks now l task caller task') (hanswer : l.ask caller now = (.later time, l')) :
      Acted settings provider now i w task
        ({ w with limiter := some l' },
          if time = now then .again { task' with phase := .asking caller }
          else .sleep time { task' with phase := .asking caller })
  | overflows {l l' : Limiter α} {caller : Caller} {task' : Task} {overflow : Overflow}
      (hitems : task.request.items.isEmpty = false) (hlimiter : w.limiter = some l)
      (hasks : Asks now l task caller task')
      (hanswer : l.ask caller now = (.overflowed overflow, l')) :
      Acted settings provider now i w task
        ({ w with limiter := some l' }, .stop overflow { task' with phase := .asking caller })
  | answered {start : Nat} {result : CallEnd} {cut : Bool} {response : Response}
      (hitems : task.request.items.isEmpty = false)
      (hphase : task.phase = .calling start result cut)
      (houtcome : outcome settings result cut = .ok response) :
      Acted settings provider now i w task
        (overWorld now i w task start cut,
          .done (task.request.result task.attempts (task.request.answered response)))
  | fails {w' : World α σ} {task' : Task} {e : CallError} {called : Bool}
      (hitems : task.request.items.isEmpty = false)
      (hfails : Fails settings now i w task w' task' e called) :
      Acted settings provider now i w task (failed settings now i w' task' e called)

/-- An asking task calls, waits, fails, or stops the program. -/
theorem acted_ask {l : Limiter α} {caller : Caller} {task' : Task}
    (hitems : task.request.items.isEmpty = false) (hlimiter : w.limiter = some l)
    (hasks : Asks now l task caller task') :
    Acted settings provider now i w task (ask settings provider now i w l caller task') := by
  rw [ask]
  cases hanswer : l.ask caller now with
  | mk answer l' =>
    cases answer with
    | granted => exact .calls hitems (.granted hlimiter hasks hanswer)
    | refused => exact .fails hitems (.refused hlimiter hasks hanswer)
    | later time => exact .waits hitems hlimiter hasks hanswer
    | overflowed overflow => exact .overflows hitems hlimiter hasks hanswer

theorem acted (settings : DispatchSettings) (provider : Provider σ) (now i : Nat) (w : World α σ)
    (task : Task) : Acted settings provider now i w task (act settings provider now i w task) := by
  rw [act]
  cases hitems : task.request.items.isEmpty with
  | true =>
    -- a request without items ends at once
    rw [if_pos rfl]
    exact .empty hitems
  | false =>
    rw [if_neg Bool.false_ne_true]
    -- what an act does depends on the phase, and on whether there is a limiter to ask
    cases hphase : task.phase with
    | idle =>
      dsimp only
      rw [attempt]
      cases hlimiter : w.limiter with
      | none => exact .calls hitems (.free hlimiter (Or.inl ⟨hphase, rfl⟩))
      | some l => exact acted_ask hitems hlimiter (.first hphase)
    | asking caller =>
      cases hlimiter : w.limiter with
      | none => exact .calls hitems (.free hlimiter (Or.inr ⟨caller, hphase, rfl⟩))
      | some l => exact acted_ask hitems hlimiter (.further hphase)
    | calling start result cut =>
      dsimp only
      rw [finish]
      cases houtcome : outcome settings result cut with
      | ok response => exact .answered hitems hphase houtcome
      | error e => exact .fails hitems (.called hphase houtcome)

/-- With a limiter a task that is not calling asks it. -/
theorem Asks.act_eq {l : Limiter α} {caller : Caller} {task' : Task}
    (hitems : task.request.items.isEmpty = false) (hlimiter : w.limiter = some l)
    (h : Asks now l task caller task') :
    act settings provider now i w task = ask settings provider now i w l caller task' := by
  rw [act, hitems, if_neg Bool.false_ne_true]
  cases h with
  | first hphase =>
    rw [hphase]
    dsimp only
    rw [attempt, hlimiter]
    simp only [hphase]
  | further hphase => rw [hphase, hlimiter]

/-- When the attempt ends with an error the act is what follows from the error. -/
theorem Fails.act_eq {w' : World α σ} {task' : Task} {e : CallError} {called : Bool}
    (hitems : task.request.items.isEmpty = false)
    (h : Fails settings now i w task w' task' e called) :
    act settings provider now i w task = failed settings now i w' task' e called := by
  cases h with
  | refused hlimiter hasks hanswer =>
    rw [hasks.act_eq hitems hlimiter, ask, hanswer]
    rfl
  | called hphase houtcome =>
    rw [act, hitems, if_neg Bool.false_ne_true, hphase]
    dsimp only
    rw [finish, houtcome]
    rfl

theorem Fails.limiter {l : Limiter α} {w' : World α σ} {task' : Task} {e : CallError}
    {called : Bool} (h : Fails settings now i w task w' task' e called)
    (hlimiter : w.limiter = some l) :
    ∃ l', w'.limiter = some l' := by
  cases h with
  | refused => exact ⟨_, rfl⟩
  | called => exact ⟨l, hlimiter⟩

/-- A task that failed makes another attempt after a delay, or ends with the error. -/
theorem failed_cases (settings : DispatchSettings) (now i : Nat) (w : World α σ) (task : Task)
    (e : CallError) (called : Bool) :
    (task.triesAgain settings e = true ∧ failed settings now i w task e called
      = (pause now i w e (task.delay settings e) called,
          .sleep (now + task.delay settings e) { task with phase := .idle })) ∨
    (task.triesAgain settings e = false ∧ failed settings now i w task e called
      = (w, .done (task.request.result task.attempts (task.request.failed e)))) := by
  rw [failed]
  cases htries : task.triesAgain settings e with
  | true => exact Or.inl ⟨rfl, if_pos rfl⟩
  | false => exact Or.inr ⟨rfl, if_neg Bool.false_ne_true⟩

theorem pause_eq {l : Limiter α} {e : CallError} (hkind : e.kind = .rateLimit)
    (hlimiter : w.limiter = some l) (span : Nat) (called : Bool) :
    pause now i w e span called =
      { w with
        limiter := some { l with bucket := l.bucket.pauseFor span now }
        log := w.log ++ [.paused i now span called] } := by
  simp only [pause, hkind, hlimiter]

/-- The limiter is paused when there were too many calls, and else nothing happens. -/
theorem pause_cases (now i : Nat) (w : World α σ) (e : CallError) (span : Nat) (called : Bool) :
    (∃ l, e.kind = .rateLimit ∧ w.limiter = some l ∧ pause now i w e span called
      = { w with
          limiter := some { l with bucket := l.bucket.pauseFor span now }
          log := w.log ++ [.paused i now span called] }) ∨
    ((e.kind = .rateLimit → w.limiter = none) ∧ pause now i w e span called = w) := by
  rw [pause]
  split
  · rename_i l hkind hlimiter
    exact Or.inl ⟨l, hkind, hlimiter, rfl⟩
  · -- either the error is of another kind, or there is no limiter to pause
    rename_i hother
    refine Or.inr ⟨?_, rfl⟩
    intro hkind
    cases hlimiter : w.limiter with
    | none => rfl
    | some l => exact (hother l hkind hlimiter).elim

/-- Only a limiter stops the program. -/
theorem goesOn_of_limiter (hlimiter : w.limiter = none) :
    (act settings provider now i w task).2.GoesOn := by
  have hacted := acted settings provider now i w task
  generalize act settings provider now i w task = next at hacted ⊢
  intro overflow stopped hstop
  cases hacted with
  | empty => cases hstop
  | calls => cases hstop
  -- only an asking task sees the limiter overflow, and there is none
  | waits _ hsome => cases hlimiter.symm.trans hsome
  | overflows _ hsome => cases hlimiter.symm.trans hsome
  | answered => cases hstop
  | @fails w' task' e called =>
    rcases failed_cases settings now i w' task' e called with ⟨_, hfailed⟩ | ⟨_, hfailed⟩
    · rw [hfailed] at hstop
      cases hstop
    · rw [hfailed] at hstop
      cases hstop

end Task

end Precis.Dispatch
