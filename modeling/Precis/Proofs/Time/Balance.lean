import Mathlib.Algebra.BigOperators.Group.List.Basic
import Mathlib.Algebra.Order.Ring.Int
import Precis.Proofs.Time.Course

/-!
# Accounts over all tasks

Every task and every result has a value, and so has the world. When each act balances what it does
to its own task against what it does to the world, but for the acts of one kind that each add one
(`Balances`), then the whole run does: what the tasks are worth in the end is what the world is
worth, and one for each act of that kind (`total_after`). Which task acts when does not matter, as a
step only moves the others (`total_moved`, `total_woken`).
-/

namespace Precis.Time

variable {σ τ ρ : Type}

/-- What the task that goes on, or its result, is worth. -/
def Move.worth (value : τ → Int) (gain : ρ → Int) : Move τ ρ → Int
  | .sleep _ task => value task
  | .again task => value task
  | .done result => gain result
  | .stop _ task => value task

namespace Schedule

variable {act : Act σ τ ρ} {s : Schedule σ τ ρ} {value : τ → Int} {gain : ρ → Int} {held : σ → Int}
  {marked : Nat → σ → τ → Bool}

/-- What all tasks and results are worth. -/
def total (value : τ → Int) (gain : ρ → Int) (s : Schedule σ τ ρ) : Int :=
  (s.ready.map fun x => value x.2).sum + (s.asleep.map fun x => value x.task).sum
    + (s.waiting.map fun x => value x.2).sum + (s.finished.map fun x => gain x.2).sum

/-- How many of so many steps are acts of a kind. -/
def occurrences (act : Act σ τ ρ) (s : Schedule σ τ ρ) (marked : Nat → σ → τ → Bool) : Nat → Nat
  | 0 => 0
  | n + 1 =>
    occurrences act s marked n +
      match (after act s n).front with
      | (_, task) :: _ => if marked (after act s n).now (after act s n).world task then 1 else 0
      | [] => 0

/-- An act adds to its task what it adds to the world, and one more when it is of the kind. -/
def Balances (act : Act σ τ ρ) (value : τ → Int) (gain : ρ → Int) (held : σ → Int)
    (marked : Nat → σ → τ → Bool) : Prop :=
  ∀ now i world task, (act now i world task).2.worth value gain + held world
    = value task + held (act now i world task).1 + if marked now world task then 1 else 0

theorem map_snd_numbered (k : Nat) (tasks : List τ) : (numbered k tasks).map (·.2) = tasks := by
  induction tasks generalizing k with
  | nil => rfl
  | cons task rest ih => rw [numbered, List.map_cons, ih]

theorem total_start (now : Nat) (world : σ) (cap : Nat) (tasks : List τ) :
    (start now world cap tasks : Schedule σ τ ρ).total value gain = (tasks.map value).sum := by
  have hall : ((numbered 0 tasks).take cap ++ (numbered 0 tasks).drop cap).map (fun x => value x.2)
      = tasks.map value := by
    rw [List.take_append_drop]
    exact (List.map_map).symm.trans (congrArg (List.map value) (map_snd_numbered 0 tasks))
  rw [← hall, List.map_append, List.sum_append]
  simp only [total, start, List.map_nil, List.sum_nil, Int.add_zero]

/-- At the end only results are left, unless the program was stopped. -/
theorem Tracked.total_of_end {going : σ → Nat → τ → Prop} {ended : Nat → ρ → Prop} {n : Nat}
    (h : Tracked going ended n s) (hstopped : s.stopped = none) (hend : s.step act = none) :
    s.total value gain = (s.finished.map fun x => gain x.2).sum := by
  -- there are as many results as tasks, so nobody is left
  have hall := h.perm.length_eq
  rw [← (h.finished_perm hstopped hend).length_eq] at hall
  simp only [indices, List.length_append, List.length_map] at hall
  have hready : s.ready = [] := List.length_eq_zero_iff.1 (by omega)
  have hasleep : s.asleep = [] := List.length_eq_zero_iff.1 (by omega)
  have hwaiting : s.waiting = [] := List.length_eq_zero_iff.1 (by omega)
  simp only [total, hready, hasleep, hwaiting, List.map_nil, List.sum_nil, Int.zero_add]

variable (value gain) in
/-- The other tasks are worth what they were. -/
theorem total_moved {i : Nat} {task : τ} {rest : List (Nat × τ)}
    (hready : s.ready = (i, task) :: rest) (world : σ) (move : Move τ ρ) :
    (s.moved rest i world move).total value gain + value task
      = s.total value gain + move.worth value gain := by
  simp only [total, hready, List.map_cons, List.sum_cons]
  cases move with
  | sleep deadline next =>
    rw [moved, Move.worth]
    split
    · simp only [List.map_cons, List.sum_cons]
      omega
    · simp only [List.map_append, List.map_singleton, List.sum_append, List.sum_singleton]
      omega
  | again next =>
    simp only [moved, Move.worth, List.map_cons, List.sum_cons]
    omega
  | done result =>
    -- the task that is started is worth the same as when it waited
    have hwaiting : (s.waiting.map fun x => value x.2).sum
        = ((s.waiting.take 1).map fun x => value x.2).sum
          + ((s.waiting.drop 1).map fun x => value x.2).sum := by
      rw [← List.sum_append, ← List.map_append, List.take_append_drop]
    simp only [moved, Move.worth, List.map_append, List.map_singleton, List.sum_append,
      List.sum_singleton]
    omega
  | stop overflow next =>
    simp only [moved, Move.worth, List.map_cons, List.sum_cons]
    omega

theorem total_woken (hready : s.ready = []) (time : Nat) :
    (s.woken time).total value gain = s.total value gain := by
  have hsplit := List.filter_append_perm (fun x : Sleeper τ => decide (x.wakes = time)) s.asleep
  have hasleep : (s.asleep.map fun x => value x.task).sum
      = ((s.asleep.filter fun x => decide (x.wakes = time)).map fun x => value x.task).sum
        + ((s.asleep.filter fun x => !decide (x.wakes = time)).map fun x => value x.task).sum := by
    rw [← List.sum_append, ← List.map_append]
    exact ((hsplit.map _).sum_eq).symm
  unfold total woken
  rw [hready, List.map_nil, List.sum_nil, List.map_map, hasleep]
  simp only [Function.comp_def, decide_not, Int.zero_add]

theorem occurrences_eq_zero
    (hnone : ∀ m task, marked (after act s m).now (after act s m).world task = false) (n : Nat) :
    occurrences act s marked n = 0 := by
  induction n with
  | zero => rfl
  | succ n ih =>
    rw [occurrences, ih]
    split
    · rw [hnone n]
      rfl
    · rfl

/-- Over any number of steps the books balance. -/
theorem total_after (hact : Balances act value gain held marked) (s : Schedule σ τ ρ) (n : Nat) :
    (after act s n).total value gain + held s.world
      = s.total value gain + held (after act s n).world + occurrences act s marked n := by
  induction n with
  | zero =>
    rw [after, occurrences]
    omega
  | succ n ih =>
    rw [occurrences]
    rcases after_succ act s n with hstep | ⟨hstep, hsame⟩
    · have hfront := front_eq_ready (stopped_of_step hstep)
      rcases step_cases hstep with ⟨i, task, rest, hready, ht⟩ | ⟨time, hready, _, ht⟩
      · -- one task acts: the total changes by what becomes of it, the world by what its act does
        have hmoved := total_moved value gain hready
          (act (after act s n).now i (after act s n).world task).1
          (act (after act s n).now i (after act s n).world task).2
        have hbalance := hact (after act s n).now i (after act s n).world task
        rw [ht, world_moved, hfront, hready]
        dsimp only
        split at hbalance
        · rename_i hmarked
          rw [if_pos hmarked]
          omega
        · rename_i hmarked
          rw [if_neg hmarked]
          omega
      · -- sleepers wake, which is no act
        rw [ht, total_woken hready, hfront, hready]
        exact ih
    · rw [hsame, front_of_step_eq_none hstep]
      exact ih

end Schedule

end Precis.Time
