import Precis.Overflow
import Precis.Time.Instant

/-!
# Tasks on one clock

Tasks share a world and a clock. One task acts at a time, until it sleeps or is done; time moves
only when every task sleeps, straight to the next deadline. Tasks that wake at one tick act in the
order in which they fell asleep. At most a given number of tasks is started at once: when one is
done the next one that waits to be started goes behind those that are already awake.

A task may stop the program; then nothing happens any more, and all tasks are left as they are.

A run need not end, so it is given by a number of steps: `run fuel` has the final schedule when the
run ends within `fuel` steps.
-/

namespace Precis.Time

/-- What a task does after it acted. -/
inductive Move (τ ρ : Type) where
  /-- Sleeps, and goes on as `task`. -/
  | sleep (deadline : Nat) (task : τ)
  /-- Acts again at once. -/
  | again (task : τ)
  | done (result : ρ)
  /-- Stops the program when it would go on as `task`. -/
  | stop (overflow : Overflow) (task : τ)

/-- A task that sleeps. -/
structure Sleeper (τ : Type) where
  wakes : Nat
  index : Nat
  task : τ

/-- The tasks of a run. -/
structure Schedule (σ τ ρ : Type) where
  now : Nat
  world : σ
  ready : List (Nat × τ)
  /-- In the order in which they fell asleep. -/
  asleep : List (Sleeper τ)
  /-- Not started yet. -/
  waiting : List (Nat × τ)
  finished : List (Nat × ρ)
  /-- What stopped the program, if something did. -/
  stopped : Option Overflow := none

namespace Schedule

variable {σ τ ρ : Type}

/-- How a task acts on the world, given the time and the task's number. -/
abbrev Act (σ τ ρ : Type) := Nat → Nat → σ → τ → σ × Move τ ρ

/-- Numbers the elements of a list from `n` on. -/
def numbered (n : Nat) : List α → List (Nat × α)
  | [] => []
  | x :: rest => (n, x) :: numbered (n + 1) rest

/-- The run of these tasks before its first step; `cap` of them are started. -/
def start (now : Nat) (world : σ) (cap : Nat) (tasks : List τ) : Schedule σ τ ρ :=
  let all := numbered 0 tasks
  { now, world, ready := all.take cap, asleep := [], waiting := all.drop cap, finished := [] }

/-- The schedule after the first task that is awake acted. -/
def moved (s : Schedule σ τ ρ) (rest : List (Nat × τ)) (index : Nat) (world : σ) :
    Move τ ρ → Schedule σ τ ρ
  | .sleep deadline task =>
    if Instant.tick deadline ≤ s.now then { s with world, ready := (index, task) :: rest }
    else
      { s with world, ready := rest, asleep := s.asleep ++ [⟨Instant.tick deadline, index, task⟩] }
  | .again task => { s with world, ready := (index, task) :: rest }
  | .done result =>
    { s with
      world
      ready := rest ++ s.waiting.take 1
      waiting := s.waiting.drop 1
      finished := s.finished ++ [(index, result)] }
  | .stop overflow task =>
    { s with world, ready := (index, task) :: rest, stopped := some overflow }

/-- The earliest time at which a task wakes. -/
def nextWake : List (Sleeper τ) → Option Nat
  | [] => none
  | s :: rest =>
    match nextWake rest with
    | none => some s.wakes
    | some t => some (min s.wakes t)

/-- The schedule at the time `t`, when the tasks that sleep until then wake. -/
def woken (s : Schedule σ τ ρ) (t : Nat) : Schedule σ τ ρ :=
  { s with
    now := t
    ready := (s.asleep.filter (·.wakes = t)).map fun x => (x.index, x.task)
    asleep := s.asleep.filter (·.wakes ≠ t) }

/-- One step; `none` when no task is left or the program was stopped. -/
def step (act : Act σ τ ρ) (s : Schedule σ τ ρ) : Option (Schedule σ τ ρ) :=
  if s.stopped.isSome then none
  else
    match s.ready with
    | (index, task) :: rest =>
      let (world, move) := act s.now index s.world task
      some (s.moved rest index world move)
    | [] => (nextWake s.asleep).map s.woken

/-- The schedule when there are no more steps, if that is so after at most `fuel` of them. -/
def run (act : Act σ τ ρ) : Nat → Schedule σ τ ρ → Option (Schedule σ τ ρ)
  | 0, _ => none
  | fuel + 1, s =>
    match s.step act with
    | none => some s
    | some s => run act fuel s

/-- The schedule, unless the program was stopped. -/
def outcome (s : Schedule σ τ ρ) : Except Overflow (Schedule σ τ ρ) :=
  match s.stopped with
  | some overflow => .error overflow
  | none => .ok s

theorem run_succ (act : Act σ τ ρ) (fuel : Nat) (s t : Schedule σ τ ρ)
    (h : run act fuel s = some t) : run act (fuel + 1) s = some t := by
  induction fuel generalizing s with
  | zero => simp [run] at h
  | succ n ih =>
    rw [run] at h ⊢
    split at h
    · rename_i hs
      simpa [hs] using h
    · rename_i s' hs
      simpa [hs] using ih s' h

end Schedule

end Precis.Time
