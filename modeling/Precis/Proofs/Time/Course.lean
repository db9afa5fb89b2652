import Precis.Proofs.Time.Schedule

/-!
# The course of a run

A run is looked at after any number of its steps (`after`), together with the tasks that have acted
so far (`actors`); nothing is said about its end, which need not come.

* Whoever sleeps wakes later than now (`Ahead`), so time does not go back.
* Tasks begin in order: before a task acts for the first time all earlier ones have acted
  (`Lined.inOrder`). The invariant is `Lined`: the tasks that have not begun stand in line by
  number, first those that are awake, then those that wait to be started, each as it was, and none
  of them sleeps.
* At most as many tasks as the cap are under way, so at most as many hold anything of the world
  (`Occupied.length_le`). The invariant is `Occupied`: what is held in the world is held by the
  tasks that are awake or asleep, one by one.
-/

namespace Precis.Time.Schedule

variable {σ τ ρ : Type} {act : Act σ τ ρ} {s : Schedule σ τ ρ} {k cap : Nat}

/-- The schedule after so many steps, or at its end when that comes before. -/
def after (act : Act σ τ ρ) (s : Schedule σ τ ρ) : Nat → Schedule σ τ ρ
  | 0 => s
  | n + 1 => ((after act s n).step act).getD (after act s n)

/-- The tasks of which the first one acts next: those that are awake, unless the program was
stopped. -/
def front (s : Schedule σ τ ρ) : List (Nat × τ) := if s.stopped.isSome then [] else s.ready

theorem front_eq_ready (h : s.stopped = none) : s.front = s.ready := by
  rw [front, h]
  rfl

/-- The tasks that act in so many steps, in the order in which they do. -/
def actors (act : Act σ τ ρ) (s : Schedule σ τ ρ) : Nat → List Nat
  | 0 => []
  | n + 1 => actors act s n ++ ((after act s n).front.head?.map (·.1)).toList

theorem actors_succ_of_front {n i : Nat} {task : τ} {rest : List (Nat × τ)}
    (h : (after act s n).front = (i, task) :: rest) :
    actors act s (n + 1) = actors act s n ++ [i] := by
  rw [actors, h]
  rfl

theorem actors_succ_of_idle {n : Nat} (h : (after act s n).front = []) :
    actors act s (n + 1) = actors act s n := by
  rw [actors, h]
  exact List.append_nil _

/-- Whoever is in front is awake. -/
theorem ready_of_front {i : Nat} {task : τ} {rest : List (Nat × τ)}
    (h : s.front = (i, task) :: rest) : s.ready = (i, task) :: rest := by
  rw [front] at h
  split at h
  · -- a stopped program has nobody in front
    cases h
  · exact h

/-- A step changes the schedule, or nothing is left to do. -/
theorem after_succ (act : Act σ τ ρ) (s : Schedule σ τ ρ) (n : Nat) :
    (after act s n).step act = some (after act s (n + 1)) ∨
      (after act s n).step act = none ∧ after act s (n + 1) = after act s n := by
  rw [after]
  cases hstep : (after act s n).step act with
  | none => exact Or.inr ⟨rfl, rfl⟩
  | some t => exact Or.inl rfl

@[simp] theorem world_moved (s : Schedule σ τ ρ) (rest : List (Nat × τ)) (i : Nat) (world : σ)
    (move : Move τ ρ) : (s.moved rest i world move).world = world := by
  cases move with
  | sleep deadline task =>
    rw [moved]
    split <;> rfl
  | again task => rfl
  | done result => rfl
  | stop overflow task => rfl

@[simp] theorem now_moved (s : Schedule σ τ ρ) (rest : List (Nat × τ)) (i : Nat) (world : σ)
    (move : Move τ ρ) : (s.moved rest i world move).now = s.now := by
  cases move with
  | sleep deadline task =>
    rw [moved]
    split <;> rfl
  | again task => rfl
  | done result => rfl
  | stop overflow task => rfl

/-- At the end nobody acts. -/
theorem front_of_step_eq_none (h : s.step act = none) : s.front = [] := by
  rw [Schedule.step] at h
  rw [front]
  split at h
  · rename_i hstopped
    rw [if_pos hstopped]
  · rename_i hstopped
    rw [if_neg hstopped]
    split at h
    · cases h
    · assumption

/-- What a step keeps holds at every moment of the run. -/
theorem after_induction {P : Schedule σ τ ρ → Prop} (hstart : P s)
    (hstep : ∀ t u, P t → t.step act = some u → P u) (n : Nat) : P (after act s n) := by
  induction n with
  | zero => exact hstart
  | succ n ih =>
    rcases after_succ act s n with h | ⟨_, h⟩
    · exact hstep _ _ ih h
    · rw [h]
      exact ih

/-- What every act keeps of the world holds of it at every moment. -/
theorem world_after {P : σ → Prop} (hact : ∀ now i world task, P world → P (act now i world task).1)
    (hstart : P s.world) (n : Nat) : P (after act s n).world := by
  refine after_induction (P := fun t => P t.world) hstart ?_ n
  intro t u ht hstep
  -- a task acts, or the clock goes on and the world stays
  rcases step_cases hstep with ⟨i, task, rest, _, rfl⟩ | ⟨time, _, _, rfl⟩
  · rw [world_moved]
    exact hact t.now i t.world task ht
  · exact ht

/-- Nothing happens after the end. -/
theorem after_add_of_end {k : Nat} (hend : (after act s k).step act = none) (m : Nat) :
    after act s (k + m) = after act s k := by
  induction m with
  | zero => rfl
  | succ m ih =>
    rw [← Nat.add_assoc, after, ih, hend]
    rfl

/-- A run that ends within so many steps is at its end after them. -/
theorem after_of_run {fuel : Nat} {t : Schedule σ τ ρ} (hrun : run act fuel s = some t) :
    after act s fuel = t ∧ t.step act = none := by
  have hfrom : ∀ fuel k, run act fuel (after act s k) = some t →
      after act s (k + fuel) = t ∧ t.step act = none := by
    intro fuel
    induction fuel with
    | zero =>
      intro k hk
      cases hk
    | succ fuel ih =>
      intro k hk
      rw [run] at hk
      rcases after_succ act s k with hstep | ⟨hstep, _⟩
      · rw [hstep] at hk
        rw [← Nat.add_assoc, Nat.add_right_comm]
        exact ih (k + 1) hk
      · rw [hstep] at hk
        cases hk
        exact ⟨after_add_of_end hstep (fuel + 1), hstep⟩
  have h := hfrom fuel 0 hrun
  rw [Nat.zero_add] at h
  exact h

/-! ## The clock -/

theorem nextWake_le {asleep : List (Sleeper τ)} {time : Nat} (h : nextWake asleep = some time) :
    ∀ x ∈ asleep, time ≤ x.wakes := by
  induction asleep generalizing time with
  | nil => cases h
  | cons x rest ih =>
    rw [nextWake] at h
    split at h
    · rename_i hnone
      cases h
      rw [nextWake_eq_none hnone]
      intro y hy
      exact Nat.le_of_eq (congrArg _ (List.mem_singleton.1 hy).symm)
    · rename_i next hnext
      cases h
      intro y hy
      rcases List.mem_cons.1 hy with rfl | hy
      · exact Nat.min_le_left _ _
      · exact Nat.le_trans (Nat.min_le_right _ _) (ih hnext y hy)

/-- Whoever sleeps wakes later than now. -/
def Ahead (s : Schedule σ τ ρ) : Prop := ∀ x ∈ s.asleep, s.now < x.wakes

theorem ahead_start (now : Nat) (world : σ) (cap : Nat) (tasks : List τ) :
    (start now world cap tasks : Schedule σ τ ρ).Ahead := by
  intro x hx
  cases hx

theorem Ahead.step {t : Schedule σ τ ρ} (h : s.Ahead) (hstep : s.step act = some t) : t.Ahead := by
  rcases step_cases hstep with ⟨i, task, rest, _, rfl⟩ | ⟨time, _, htime, rfl⟩
  · generalize (act s.now i s.world task).2 = move
    cases move with
    | sleep deadline next =>
      -- nobody sleeps but those who slept before and the task that acted
      rw [moved]
      split
      · exact h
      · rename_i hlater
        intro x hx
        rcases List.mem_append.1 hx with hx | hx
        · exact h x hx
        · rw [List.mem_singleton.1 hx]
          exact Nat.lt_of_not_le hlater
    | again next => exact h
    | done result => exact h
    | stop overflow next => exact h
  · intro x hx
    obtain ⟨hx, hwakes⟩ := List.mem_filter.1 hx
    exact Nat.lt_of_le_of_ne (nextWake_le htime x hx) (of_decide_eq_true hwakes).symm

/-- Time does not go back. -/
theorem Ahead.now_le {t : Schedule σ τ ρ} (h : s.Ahead) (hstep : s.step act = some t) :
    s.now ≤ t.now := by
  -- only the clock makes it later, and it goes to where somebody sleeps
  rcases step_cases hstep with ⟨i, task, rest, _, rfl⟩ | ⟨time, _, htime, rfl⟩
  · rw [now_moved]
  · obtain ⟨x, hx, hwakes⟩ := exists_of_nextWake htime
    rw [← hwakes]
    exact Nat.le_of_lt (h x hx)

/-- The clock stands at a whole millisecond, and whoever sleeps wakes at one. -/
structure Ticks (s : Schedule σ τ ρ) : Prop where
  now : Instant.tick s.now = s.now
  asleep : ∀ x ∈ s.asleep, Instant.tick x.wakes = x.wakes

theorem Ticks.step {t : Schedule σ τ ρ} (h : s.Ticks) (hstep : s.step act = some t) : t.Ticks := by
  rcases step_cases hstep with ⟨i, task, rest, _, rfl⟩ | ⟨time, _, htime, rfl⟩
  · refine ⟨by rw [now_moved, h.now], ?_⟩
    generalize (act s.now i s.world task).2 = move
    cases move with
    | sleep deadline next =>
      rw [moved]
      split
      · exact h.asleep
      · intro x hx
        rcases List.mem_append.1 hx with hx | hx
        · exact h.asleep x hx
        · rw [List.mem_singleton.1 hx]
          exact Instant.tick_tick deadline
    | again next => exact h.asleep
    | done result => exact h.asleep
    | stop overflow next => exact h.asleep
  · -- somebody sleeps until then
    obtain ⟨x, hx, hwakes⟩ := exists_of_nextWake htime
    refine ⟨?_, fun y hy => h.asleep y (List.mem_filter.1 hy).1⟩
    show Instant.tick time = time
    rw [← hwakes, h.asleep x hx]

/-! ## Tasks begin in order -/

/-- Before a task stands in the list all tasks with lower numbers do. -/
def InOrder (acts : List Nat) : Prop :=
  ∀ before j later, acts = before ++ j :: later → ∀ i, i < j → i ∈ before

theorem inOrder_nil : InOrder [] := by
  intro before j later h
  exact absurd h (by simp)

/-- What stands in a list that was made longer is the new element, or it stood there before. -/
theorem split_concat {xs before later : List α} {x y : α} (h : xs ++ [x] = before ++ y :: later) :
    before = xs ∧ y = x ∨ ∃ later', xs = before ++ y :: later' := by
  rcases List.eq_nil_or_concat later with rfl | ⟨later', last, rfl⟩
  · obtain ⟨rfl, hlast⟩ := List.append_inj' h rfl
    cases hlast
    exact Or.inl ⟨rfl, rfl⟩
  · rw [List.concat_eq_append, ← List.cons_append, ← List.append_assoc] at h
    exact Or.inr ⟨later', (List.append_inj' h rfl).1⟩

theorem InOrder.concat {acts : List Nat} {j : Nat} (h : InOrder acts) (hj : ∀ i, i < j → i ∈ acts) :
    InOrder (acts ++ [j]) := by
  intro before j' later heq
  rcases split_concat heq with ⟨rfl, rfl⟩ | ⟨later', hacts⟩
  · exact hj
  · exact h before j' later' hacts

/-- The first `k` tasks have begun, and the others stand in line as they were at the start. -/
structure Lined (tasks : List τ) (k : Nat) (s : Schedule σ τ ρ) : Prop where
  line : (s.ready ++ s.waiting).filter (k ≤ ·.1) = numbered k (tasks.drop k)
  asleep : ∀ x ∈ s.asleep, x.index < k

variable {tasks : List τ}

theorem lined_start (now : Nat) (world : σ) (cap : Nat) (tasks : List τ) :
    Lined tasks 0 (start now world cap tasks : Schedule σ τ ρ) := by
  constructor
  · have hall : (start now world cap tasks : Schedule σ τ ρ).ready
        ++ (start now world cap tasks : Schedule σ τ ρ).waiting = numbered 0 tasks :=
      List.take_append_drop _ _
    rw [hall, List.drop_zero]
    exact List.filter_eq_self.2 fun x _ => decide_eq_true (Nat.zero_le x.1)
  · intro x hx
    cases hx

/-- The task in front has begun before, or it is the next in line. -/
theorem Lined.head {i : Nat} {task : τ} {rest : List (Nat × τ)} (h : Lined tasks k s)
    (hready : s.ready = (i, task) :: rest) :
    ∃ k', (i < k ∧ k' = k ∨ i = k ∧ k' = k + 1 ∧ tasks[i]? = some task) ∧
      (rest ++ s.waiting).filter (k' ≤ ·.1) = numbered k' (tasks.drop k') := by
  have hline := h.line
  rw [hready, List.cons_append, List.filter_cons] at hline
  by_cases hik : k ≤ i
  · -- it stands first in what is left of the line
    rw [if_pos (decide_eq_true hik)] at hline
    cases hdrop : tasks.drop k with
    | nil =>
      rw [hdrop] at hline
      cases hline
    | cons next later =>
      rw [hdrop, numbered] at hline
      obtain ⟨hhead, hrest⟩ := List.cons.inj hline
      obtain ⟨rfl, rfl⟩ := Prod.mk.inj hhead
      have hget : tasks[i]? = some task := by
        rw [← Nat.add_zero i, ← List.getElem?_drop, hdrop]
        rfl
      have hlater : tasks.drop (i + 1) = later := by
        rw [← List.drop_drop, hdrop, List.drop_succ_cons, List.drop_zero]
      refine ⟨i + 1, Or.inr ⟨rfl, rfl, hget⟩, ?_⟩
      -- the numbers above `i` are left over when it is gone
      have hsub : (rest ++ s.waiting).filter (i + 1 ≤ ·.1)
          = ((rest ++ s.waiting).filter (i ≤ ·.1)).filter (i + 1 ≤ ·.1) := by
        rw [List.filter_filter]
        refine List.filter_congr ?_
        intro x _
        rw [← Bool.decide_and]
        exact decide_eq_decide.2 ⟨fun hx => ⟨hx, by omega⟩, fun hx => hx.1⟩
      rw [hsub, hrest, hlater]
      refine List.filter_eq_self.2 ?_
      intro x hx
      exact decide_eq_true (mem_numbered hx).1
  · -- it began earlier, and what is left of the line does not change
    rw [if_neg (by simpa using hik)] at hline
    exact ⟨k, Or.inl ⟨Nat.lt_of_not_le hik, rfl⟩, hline⟩

/-- Whatever the task in front does, it has begun now. -/
theorem Lined.moved {i k' : Nat} {rest : List (Nat × τ)} {world : σ} {move : Move τ ρ}
    (h : Lined tasks k s) (hi : i < k') (hk : k ≤ k')
    (hline : (rest ++ s.waiting).filter (k' ≤ ·.1) = numbered k' (tasks.drop k')) :
    Lined tasks k' (s.moved rest i world move) := by
  have hasleep : ∀ x ∈ s.asleep, x.index < k' := by
    intro x hx
    have := h.asleep x hx
    omega
  have hfront : ∀ next : τ,
      (((i, next) :: rest) ++ s.waiting).filter (k' ≤ ·.1) = numbered k' (tasks.drop k') := by
    intro next
    rw [List.cons_append, List.filter_cons, if_neg (by simpa using hi)]
    exact hline
  cases move with
  | sleep deadline next =>
    rw [Schedule.moved]
    split
    · -- it is due at once, and stays where it is
      exact ⟨hfront next, hasleep⟩
    · refine ⟨hline, ?_⟩
      intro x hx
      rcases List.mem_append.1 hx with hx | hx
      · exact hasleep x hx
      · rw [List.mem_singleton.1 hx]
        exact hi
  | again next => exact ⟨hfront next, hasleep⟩
  | done result =>
    refine ⟨?_, hasleep⟩
    -- the task that is started only moves up in the line
    have hsame : (rest ++ s.waiting.take 1) ++ s.waiting.drop 1 = rest ++ s.waiting := by
      rw [List.append_assoc, List.take_append_drop]
    simp only [Schedule.moved, hsame]
    exact hline
  | stop overflow next => exact ⟨hfront next, hasleep⟩

theorem Lined.woken {time : Nat} (h : Lined tasks k s) (hready : s.ready = []) :
    Lined tasks k (s.woken time) := by
  constructor
  · have hline := h.line
    rw [hready, List.nil_append] at hline
    have hnone : (s.woken time).ready.filter (k ≤ ·.1) = [] := by
      rw [List.filter_eq_nil_iff]
      intro y hy
      obtain ⟨x, hx, rfl⟩ := List.mem_map.1 hy
      have hless := h.asleep x (List.mem_filter.1 hx).1
      simpa using hless
    rw [List.filter_append, hnone]
    exact hline
  · intro x hx
    exact h.asleep x (List.mem_filter.1 hx).1

/-- The tasks that have begun are those that have acted. -/
theorem Lined.acted (act : Act σ τ ρ) (h : Lined tasks 0 s) (m : Nat) :
    ∃ k, Lined tasks k (after act s m) ∧ ∀ i, i ∈ actors act s m ↔ i < k := by
  induction m with
  | zero =>
    refine ⟨0, h, ?_⟩
    intro i
    exact ⟨fun hi => absurd hi List.not_mem_nil, fun hi => absurd hi (Nat.not_lt_zero i)⟩
  | succ m ih =>
    obtain ⟨k, hlined, hacted⟩ := ih
    rcases after_succ act s m with hstep | ⟨hstep, hsame⟩
    · have hgoes := stopped_of_step hstep
      rcases step_cases hstep with ⟨i, task, rest, hready, ht⟩ | ⟨time, hready, _, ht⟩
      · -- a task acts: it had begun before, or it is the next one
        obtain ⟨k', hcase, hline⟩ := hlined.head hready
        have hi : i < k' ∧ k ≤ k' := by omega
        refine ⟨k', ?_, ?_⟩
        · rw [ht]
          exact hlined.moved hi.1 hi.2 hline
        · intro j
          rw [actors_succ_of_front ((front_eq_ready hgoes).trans hready), List.mem_append,
            List.mem_singleton, hacted j]
          omega
      · -- the clock goes on, and nobody acts
        refine ⟨k, ?_, ?_⟩
        · rw [ht]
          exact hlined.woken hready
        · rw [actors_succ_of_idle ((front_eq_ready hgoes).trans hready)]
          exact hacted
    · -- the run is over
      refine ⟨k, hsame ▸ hlined, ?_⟩
      rw [actors_succ_of_idle (front_of_step_eq_none hstep)]
      exact hacted

/-- When a task acts all earlier ones have acted, and it has too or it is as it was at the start. -/
theorem Lined.front {m i : Nat} {task : τ} {rest : List (Nat × τ)} (h : Lined tasks 0 s)
    (hready : (after act s m).ready = (i, task) :: rest) :
    (∀ j, j < i → j ∈ actors act s m) ∧ (i ∈ actors act s m ∨ tasks[i]? = some task) := by
  obtain ⟨k, hlined, hacted⟩ := h.acted act m
  obtain ⟨k', hcase, _⟩ := hlined.head hready
  constructor
  · intro j hj
    rw [hacted j]
    omega
  · -- it has acted before, or it is the next one in the line
    rcases hcase with ⟨hi, _⟩ | ⟨_, _, htask⟩
    · exact Or.inl ((hacted i).2 hi)
    · exact Or.inr htask

/-- Before a task acts for the first time all earlier ones have acted. -/
theorem Lined.inOrder (act : Act σ τ ρ) (h : Lined tasks 0 s) (m : Nat) :
    InOrder (actors act s m) := by
  induction m with
  | zero => exact inOrder_nil
  | succ m ih =>
    cases hfront : (after act s m).front with
    | nil =>
      rw [actors_succ_of_idle hfront]
      exact ih
    | cons x rest =>
      rw [actors_succ_of_front hfront]
      exact ih.concat (h.front (ready_of_front hfront)).1

/-! ## What the tasks hold -/

/-- The number of a task that is busy. -/
def own (busy : τ → Bool) (i : Nat) (task : τ) : List Nat := if busy task then [i] else []

/-- The number of a task that goes on busy. -/
def ownNext (busy : τ → Bool) (i : Nat) : Move τ ρ → List Nat
  | .sleep _ task => own busy i task
  | .again task => own busy i task
  | .done _ => []
  | .stop _ task => own busy i task

/-- The numbers of the tasks awake or asleep that are busy. -/
def busyOnes (busy : τ → Bool) (s : Schedule σ τ ρ) : List Nat :=
  (s.ready.flatMap fun x => own busy x.1 x.2) ++ s.asleep.flatMap fun x => own busy x.index x.task

/-- A task that acts takes and gives back what it holds of the world, and leaves alone what others
hold. -/
def Tallies (act : Act σ τ ρ) (held : σ → List Nat) (busy : τ → Bool) : Prop :=
  ∀ now i world task others, (held world).Perm (own busy i task ++ others) →
    (held (act now i world task).1).Perm (ownNext busy i (act now i world task).2 ++ others)

/-- What is held is held by busy tasks, of which at most `cap` are under way. -/
structure Occupied (held : σ → List Nat) (busy : τ → Bool) (cap : Nat)
    (s : Schedule σ τ ρ) : Prop where
  perm : (held s.world).Perm (s.busyOnes busy)
  waiting : ∀ x ∈ s.waiting, busy x.2 = false
  room : s.ready.length + s.asleep.length ≤ cap

variable {held : σ → List Nat} {busy : τ → Bool}

theorem length_own_le (busy : τ → Bool) (i : Nat) (task : τ) : (own busy i task).length ≤ 1 := by
  unfold own
  split <;> simp

theorem flatMap_own_eq_nil (xs : List (Nat × τ)) (h : ∀ x ∈ xs, busy x.2 = false) :
    (xs.flatMap fun x => own busy x.1 x.2) = [] := by
  rw [List.flatMap_eq_nil_iff]
  intro x hx
  rw [own, h x hx]
  rfl

/-- At most `cap` pieces of the world are held. -/
theorem Occupied.length_le (h : Occupied held busy cap s) : (held s.world).length ≤ cap := by
  have hflat : ∀ {β : Type} (xs : List β) (f : β → List Nat), (∀ x, (f x).length ≤ 1) →
      (xs.flatMap f).length ≤ xs.length := by
    intro β xs f hf
    induction xs with
    | nil => exact Nat.le_refl _
    | cons x rest ih =>
      have hx := hf x
      rw [List.flatMap_cons, List.length_append, List.length_cons]
      omega
  have hready := hflat s.ready _ fun x => length_own_le busy x.1 x.2
  have hasleep := hflat s.asleep _ fun x => length_own_le busy x.index x.task
  have hroom := h.room
  have hlength := h.perm.length_eq
  rw [busyOnes, List.length_append] at hlength
  omega

theorem occupied_start {tasks : List τ} (now : Nat) {world : σ} (cap : Nat)
    (hworld : held world = []) (htasks : ∀ task ∈ tasks, busy task = false) :
    Occupied held busy cap (start now world cap tasks : Schedule σ τ ρ) := by
  have hidle : ∀ x ∈ numbered 0 tasks, busy x.2 = false := by
    intro x hx
    exact htasks x.2 (List.mem_of_getElem? (mem_numbered hx).2)
  refine ⟨?_, ?_, ?_⟩
  · have hready := flatMap_own_eq_nil ((numbered 0 tasks).take cap)
      fun x hx => hidle x (List.mem_of_mem_take hx)
    simp only [busyOnes, start, hworld, hready, List.flatMap_nil, List.append_nil]
    exact List.Perm.refl _
  · exact fun x hx => hidle x (List.mem_of_mem_drop hx)
  · simp only [start, List.length_take, List.length_nil]
    omega

theorem Occupied.moved {i now : Nat} {task : τ} {rest : List (Nat × τ)}
    (h : Occupied held busy cap s) (hact : Tallies act held busy)
    (hready : s.ready = (i, task) :: rest) :
    Occupied held busy cap
      (s.moved rest i (act now i s.world task).1 (act now i s.world task).2) := by
  obtain ⟨hperm, hwaiting, hroom⟩ := h
  rw [busyOnes, hready, List.flatMap_cons, List.append_assoc] at hperm
  rw [hready, List.length_cons] at hroom
  have hheld := hact now i s.world task _ hperm
  generalize (act now i s.world task).2 = move at hheld ⊢
  generalize (act now i s.world task).1 = world at hheld ⊢
  cases move with
  | sleep deadline next =>
    rw [Schedule.moved]
    split
    · refine ⟨?_, hwaiting, hroom⟩
      rw [busyOnes, List.flatMap_cons, List.append_assoc]
      exact hheld
    · refine ⟨?_, hwaiting, ?_⟩
      · -- it joins those who sleep
        refine hheld.trans (List.perm_append_comm.trans ?_)
        simp only [busyOnes, ownNext, List.flatMap_append, List.flatMap_cons, List.flatMap_nil,
          List.append_nil, List.append_assoc]
        exact List.Perm.refl _
      · simp only [List.length_append, List.length_singleton]
        omega
  | again next =>
    refine ⟨?_, hwaiting, hroom⟩
    rw [Schedule.moved, busyOnes, List.flatMap_cons, List.append_assoc]
    exact hheld
  | done result =>
    have hstarted := flatMap_own_eq_nil (s.waiting.take 1)
      fun x hx => hwaiting x (List.mem_of_mem_take hx)
    refine ⟨?_, ?_, ?_⟩
    · rw [Schedule.moved, busyOnes, List.flatMap_append, hstarted, List.append_nil]
      exact hheld
    · exact fun x hx => hwaiting x (List.mem_of_mem_drop hx)
    · -- the place that becomes free is taken at most once
      have htake := List.length_take_le 1 s.waiting
      simp only [Schedule.moved, List.length_append]
      omega
  | stop overflow next =>
    refine ⟨?_, hwaiting, hroom⟩
    rw [Schedule.moved, busyOnes, List.flatMap_cons, List.append_assoc]
    exact hheld

theorem Occupied.woken {time : Nat} (h : Occupied held busy cap s) (hready : s.ready = []) :
    Occupied held busy cap (s.woken time) := by
  obtain ⟨hperm, hwaiting, hroom⟩ := h
  have hsplit := List.filter_append_perm (fun x : Sleeper τ => decide (x.wakes = time)) s.asleep
  refine ⟨?_, hwaiting, ?_⟩
  · refine hperm.trans ?_
    rw [busyOnes, hready, List.flatMap_nil, List.nil_append]
    refine (hsplit.symm.flatMap_right _).trans ?_
    rw [List.flatMap_append, busyOnes]
    simp only [Schedule.woken, List.flatMap_map, decide_not]
    exact List.Perm.refl _
  · have hlength := hsplit.length_eq
    rw [hready, List.length_nil] at hroom
    simp only [Schedule.woken, List.length_map, decide_not]
    rw [List.length_append] at hlength
    omega

/-- At every moment of the run what is held is held by tasks under way. -/
theorem Occupied.kept (h : Occupied held busy cap s) (hact : Tallies act held busy) (m : Nat) :
    Occupied held busy cap (after act s m) := by
  refine after_induction h ?_ m
  intro t u ht hstep
  rcases step_cases hstep with ⟨i, task, rest, hready, rfl⟩ | ⟨time, hready, _, rfl⟩
  · exact ht.moved hact hready
  · exact ht.woken hready

end Precis.Time.Schedule
