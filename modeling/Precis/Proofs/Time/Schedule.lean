import Mathlib.Algebra.Order.Ring.Nat
import Precis.Time.Schedule

/-!
# Every task ends

`Tracked` says of a schedule that it holds each task exactly once, awake, asleep, waiting or
finished, and that no task waits while nothing runs. What is said of a task may speak of the world
that the tasks share, so a task that acts has to leave the others as they should be (`Keeps`). One
step keeps it (`Tracked.step`), so when no step is left and nothing stopped the program all tasks
are finished, each with a result that its acts allow (`Tracked.finished_of_run`).

A run comes to that end when every act lowers the rank of its task and none stops the program
(`Tracked.exists_run`).
-/

namespace Precis.Time

/-- The task that goes on, or its result, is as it should be. -/
def Move.Leads {τ ρ : Type} (going : τ → Prop) (ended : ρ → Prop) : Move τ ρ → Prop
  | .sleep _ task => going task
  | .again task => going task
  | .done result => ended result
  | .stop _ task => going task

theorem Move.Leads.imp {τ ρ : Type} {going going' : τ → Prop} {ended ended' : ρ → Prop}
    {move : Move τ ρ} (h : move.Leads going ended) (hgoing : ∀ task, going task → going' task)
    (hended : ∀ result, ended result → ended' result) : move.Leads going' ended' := by
  cases move with
  | sleep _ task => exact hgoing task h
  | again task => exact hgoing task h
  | done result => exact hended result h
  | stop _ task => exact hgoing task h

/-- The program is not stopped. -/
def Move.GoesOn {τ ρ : Type} (move : Move τ ρ) : Prop := ∀ overflow task, move ≠ .stop overflow task

namespace Schedule

variable {σ τ ρ : Type} {act : Act σ τ ρ} {going : σ → Nat → τ → Prop} {ended : Nat → ρ → Prop}
  {n : Nat} {s t : Schedule σ τ ρ}

/-- A task that acts goes on or ends as it should, and the others stay as they should be. -/
structure Keeps (act : Act σ τ ρ) (going : σ → Nat → τ → Prop) (ended : Nat → ρ → Prop) : Prop where
  self : ∀ now i world task, going world i task →
    (act now i world task).2.Leads (going (act now i world task).1 i) (ended i)
  others : ∀ now i world task, going world i task → ∀ j other, j ≠ i → going world j other →
    going (act now i world task).1 j other

/-- The numbers of all tasks. -/
def indices (s : Schedule σ τ ρ) : List Nat :=
  s.ready.map (·.1) ++ s.asleep.map (·.index) ++ s.waiting.map (·.1) ++ s.finished.map (·.1)

/-- The schedule holds `n` tasks, each as it should be, and a task that waits is waiting for
another. -/
structure Tracked (going : σ → Nat → τ → Prop) (ended : Nat → ρ → Prop) (n : Nat)
    (s : Schedule σ τ ρ) : Prop where
  perm : s.indices.Perm (List.range n)
  ready : ∀ x ∈ s.ready, going s.world x.1 x.2
  asleep : ∀ x ∈ s.asleep, going s.world x.index x.task
  waiting : ∀ x ∈ s.waiting, going s.world x.1 x.2
  finished : ∀ x ∈ s.finished, ended x.1 x.2
  live : s.waiting ≠ [] → s.ready ≠ [] ∨ s.asleep ≠ []

/-! ## Numbering -/

theorem map_fst_numbered (k : Nat) (xs : List α) :
    (numbered k xs).map (·.1) = List.range' k xs.length := by
  induction xs generalizing k with
  | nil => rfl
  | cons x rest ih => rw [numbered, List.map_cons, ih, List.length_cons, List.range'_succ]

theorem mem_numbered {k : Nat} {xs : List α} {x : Nat × α} (h : x ∈ numbered k xs) :
    k ≤ x.1 ∧ xs[x.1 - k]? = some x.2 := by
  induction xs generalizing k with
  | nil => cases h
  | cons a rest ih =>
    rcases List.mem_cons.1 h with rfl | h
    · refine ⟨Nat.le_refl _, ?_⟩
      rw [Nat.sub_self]
      rfl
    · obtain ⟨hle, hget⟩ := ih h
      refine ⟨by omega, ?_⟩
      rw [show x.1 - k = x.1 - (k + 1) + 1 by omega, List.getElem?_cons_succ]
      exact hget

theorem tracked_start {tasks : List τ} (now : Nat) {world : σ} {cap : Nat} (hcap : 0 < cap)
    (htasks : ∀ i task, tasks[i]? = some task → going world i task) :
    Tracked going ended tasks.length (start now world cap tasks : Schedule σ τ ρ) := by
  have hgoing : ∀ x ∈ numbered 0 tasks, going world x.1 x.2 := by
    intro x hx
    exact htasks x.1 x.2 (mem_numbered hx).2
  refine ⟨?_, ?_, ?_, ?_, ?_, ?_⟩
  · simp only [indices, start, List.map_nil, List.append_nil, ← List.map_append,
      List.take_append_drop, map_fst_numbered, List.range_eq_range']
    exact List.Perm.refl _
  · exact fun x hx => hgoing x (List.mem_of_mem_take hx)
  · intro x hx
    cases hx
  · exact fun x hx => hgoing x (List.mem_of_mem_drop hx)
  · intro x hx
    cases hx
  · -- the tasks that are started come first
    intro hwaiting
    left
    show (numbered 0 tasks).take cap ≠ []
    intro hready
    -- none are started only if none may be under way, or if there are none
    rcases List.take_eq_nil_iff.1 hready with hzero | hnil
    · omega
    · exact hwaiting (by simp only [start, hnil, List.drop_nil])

/-! ## One step -/

theorem nextWake_eq_none {asleep : List (Sleeper τ)} (h : nextWake asleep = none) :
    asleep = [] := by
  cases asleep with
  | nil => rfl
  | cons x rest =>
    rw [nextWake] at h
    split at h <;> cases h

theorem exists_of_nextWake {asleep : List (Sleeper τ)} {time : Nat}
    (h : nextWake asleep = some time) : ∃ x ∈ asleep, x.wakes = time := by
  induction asleep generalizing time with
  | nil => cases h
  | cons x rest ih =>
    rw [nextWake] at h
    split at h
    · cases h
      exact ⟨x, List.mem_cons_self, rfl⟩
    · rename_i next hnext
      cases h
      -- the earlier one of the first sleeper and the earliest of the others
      rcases Nat.le_total x.wakes next with hle | hle
      · exact ⟨x, List.mem_cons_self, (Nat.min_eq_left hle).symm⟩
      · obtain ⟨y, hy, hwakes⟩ := ih hnext
        exact ⟨y, List.mem_cons_of_mem x hy, hwakes.trans (Nat.min_eq_right hle).symm⟩

/-- The task that acts has a number of its own. -/
theorem Tracked.index_ne {index : Nat} {task : τ} {rest : List (Nat × τ)}
    (h : Tracked going ended n s) (hready : s.ready = (index, task) :: rest) :
    (∀ x ∈ rest, x.1 ≠ index) ∧ (∀ x ∈ s.asleep, x.index ≠ index) ∧ (∀ x ∈ s.waiting, x.1 ≠ index) ∧
      ∀ x ∈ s.finished, x.1 ≠ index := by
  have hindices := h.perm.nodup_iff.2 List.nodup_range
  rw [indices, hready, List.map_cons, List.cons_append, List.cons_append, List.cons_append,
    List.nodup_cons] at hindices
  have hnot := hindices.1
  simp only [List.mem_append, List.mem_map, not_or, not_exists, not_and] at hnot
  exact ⟨hnot.1.1.1, hnot.1.1.2, hnot.1.2, hnot.2⟩

/-- The tasks beside the first one that is awake have other numbers, so they stay as they should
be. -/
theorem Tracked.others {index : Nat} {task : τ} {rest : List (Nat × τ)} {world : σ}
    (h : Tracked going ended n s) (hready : s.ready = (index, task) :: rest)
    (hothers : ∀ j other, j ≠ index → going s.world j other → going world j other) :
    (∀ x ∈ rest, going world x.1 x.2) ∧ (∀ x ∈ s.asleep, going world x.index x.task) ∧
      ∀ x ∈ s.waiting, going world x.1 x.2 := by
  obtain ⟨hrest, hasleep, hwaiting, _⟩ := h.index_ne hready
  have hreadyAll := h.ready
  rw [hready] at hreadyAll
  refine ⟨?_, ?_, ?_⟩
  · intro x hx
    exact hothers _ _ (hrest x hx) (hreadyAll x (List.mem_cons_of_mem _ hx))
  · intro x hx
    exact hothers _ _ (hasleep x hx) (h.asleep x hx)
  · intro x hx
    exact hothers _ _ (hwaiting x hx) (h.waiting x hx)

theorem Tracked.moved {index : Nat} {task : τ} {rest : List (Nat × τ)} {world : σ} {move : Move τ ρ}
    (h : Tracked going ended n s) (hready : s.ready = (index, task) :: rest)
    (hmove : move.Leads (going world index) (ended index))
    (hothers : ∀ j other, j ≠ index → going s.world j other → going world j other) :
    Tracked going ended n (s.moved rest index world move) := by
  obtain ⟨hrest, hasleep, hwaiting⟩ := h.others hready hothers
  have hfinished := h.finished
  have hindices := h.perm
  rw [indices, hready, List.map_cons] at hindices
  cases move with
  | sleep deadline next =>
    rw [Schedule.moved]
    split
    · -- the deadline is over: the task stays in front
      exact ⟨hindices, List.forall_mem_cons.2 ⟨hmove, hrest⟩, hasleep, hwaiting, hfinished,
        fun _ => Or.inl (List.cons_ne_nil _ _)⟩
    · -- the task joins those who sleep, so somebody is left who will act
      refine ⟨?_, hrest, ?_, hwaiting, hfinished, fun _ => Or.inr (by simp)⟩
      · refine List.Perm.trans ?_ hindices
        rw [List.perm_iff_count]
        intro i
        simp only [indices, List.map_append, List.map_cons, List.map_nil, List.count_append,
          List.count_cons, List.count_nil]
        omega
      · intro x hx
        rcases List.mem_append.1 hx with hx | hx
        · exact hasleep x hx
        · rw [List.mem_singleton.1 hx]
          exact hmove
  | again next =>
    exact ⟨hindices, List.forall_mem_cons.2 ⟨hmove, hrest⟩, hasleep, hwaiting, hfinished,
      fun _ => Or.inl (List.cons_ne_nil _ _)⟩
  | done result =>
    refine ⟨?_, ?_, hasleep, ?_, ?_, ?_⟩
    · -- its number is among the finished ones now, and that of the next task is no longer waiting
      refine List.Perm.trans ?_ hindices
      have hsplit : ∀ i, (s.waiting.map (·.1)).count i
          = ((s.waiting.take 1).map (·.1)).count i + ((s.waiting.drop 1).map (·.1)).count i := by
        intro i
        rw [← List.count_append, ← List.map_append, List.take_append_drop]
      rw [List.perm_iff_count]
      intro i
      simp only [indices, Schedule.moved, List.map_append, List.map_cons, List.map_nil,
        List.count_append, List.count_cons, List.count_nil, hsplit i]
      omega
    · intro x hx
      rcases List.mem_append.1 hx with hx | hx
      · exact hrest x hx
      · exact hwaiting x (List.mem_of_mem_take hx)
    · exact fun x hx => hwaiting x (List.mem_of_mem_drop hx)
    · intro x hx
      rcases List.mem_append.1 hx with hx | hx
      · exact hfinished x hx
      · rw [List.mem_singleton.1 hx]
        exact hmove
    · -- the next task is started with the end of this one
      intro hdrop
      left
      cases hs : s.waiting with
      | nil =>
        simp only [Schedule.moved, hs, List.drop_nil] at hdrop
        exact absurd rfl hdrop
      | cons x more => simp [Schedule.moved, hs]
  | stop overflow next =>
    exact ⟨hindices, List.forall_mem_cons.2 ⟨hmove, hrest⟩, hasleep, hwaiting, hfinished,
      fun _ => Or.inl (List.cons_ne_nil _ _)⟩

theorem Tracked.woken {time : Nat} (h : Tracked going ended n s) (hready : s.ready = [])
    (htime : nextWake s.asleep = some time) : Tracked going ended n (s.woken time) := by
  obtain ⟨hindices, _, hasleep, hwaiting, hfinished, _⟩ := h
  refine ⟨?_, ?_, ?_, hwaiting, hfinished, ?_⟩
  · -- who wakes and who sleeps on are the sleepers that there were
    refine List.Perm.trans ?_ hindices
    have hsplit := List.filter_append_perm (fun x : Sleeper τ => decide (x.wakes = time)) s.asleep
    have hasleep : ((s.asleep.filter fun x => decide (x.wakes = time)).map (·.index)
        ++ (s.asleep.filter fun x => !decide (x.wakes = time)).map (·.index)).Perm
          (s.asleep.map (·.index)) := by
      rw [← List.map_append]
      exact hsplit.map _
    simp only [indices, Schedule.woken, hready, List.map_map, List.map_nil, List.nil_append,
      Function.comp_def, decide_not]
    exact (hasleep.append_right _).append_right _
  · intro x hx
    obtain ⟨y, hy, rfl⟩ := List.mem_map.1 hx
    exact hasleep y (List.mem_filter.1 hy).1
  · exact fun x hx => hasleep x ((List.mem_filter.1 hx).1)
  · -- somebody sleeps until that time
    intro _
    left
    obtain ⟨x, hx, hwakes⟩ := exists_of_nextWake htime
    refine List.ne_nil_of_mem (a := (x.index, x.task)) (List.mem_map.2 ⟨x, ?_, rfl⟩)
    exact List.mem_filter.2 ⟨hx, by simpa using hwakes⟩

/-- A program that was stopped takes no step. -/
theorem stopped_of_step (hstep : s.step act = some t) : s.stopped = none := by
  rw [Schedule.step] at hstep
  split at hstep
  · cases hstep
  · rename_i hstopped
    simpa using hstopped

/-- The first task that is awake acts, or the next ones wake. -/
theorem step_cases (hstep : s.step act = some t) :
    (∃ index task rest, s.ready = (index, task) :: rest ∧
      t = s.moved rest index (act s.now index s.world task).1 (act s.now index s.world task).2) ∨
    ∃ time, s.ready = [] ∧ nextWake s.asleep = some time ∧ t = s.woken time := by
  have hstopped : s.stopped.isSome = false := by rw [stopped_of_step hstep]; rfl
  rw [Schedule.step, hstopped, if_neg Bool.false_ne_true] at hstep
  split at hstep
  · rename_i index task rest hready
    cases hstep
    exact Or.inl ⟨index, task, rest, hready, rfl⟩
  · rename_i hready
    rw [Option.map_eq_some_iff] at hstep
    obtain ⟨time, htime, rfl⟩ := hstep
    exact Or.inr ⟨time, hready, htime, rfl⟩

/-- What one step keeps. -/
theorem Tracked.step (h : Tracked going ended n s) (hact : Keeps act going ended)
    (hstep : s.step act = some t) : Tracked going ended n t := by
  rcases step_cases hstep with ⟨index, task, rest, hready, rfl⟩ | ⟨time, hready, htime, rfl⟩
  · have hgoing : going s.world index task :=
      h.ready (index, task) (by rw [hready]; exact List.mem_cons_self)
    exact h.moved hready (hact.self s.now index s.world task hgoing)
      (hact.others s.now index s.world task hgoing)
  · exact h.woken hready htime

/-! ## A run -/

theorem Tracked.run (h : Tracked going ended n s) (hact : Keeps act going ended) (fuel : Nat)
    (hrun : Schedule.run act fuel s = some t) : Tracked going ended n t ∧ t.step act = none := by
  induction fuel generalizing s with
  | zero => cases hrun
  | succ fuel ih =>
    rw [Schedule.run] at hrun
    split at hrun
    · -- the run is over where it is
      rename_i hstep
      cases hrun
      exact ⟨h, hstep⟩
    · rename_i next hstep
      exact ih (h.step hact hstep) hrun

/-- When no step is left, every task is finished, unless the program was stopped. -/
theorem Tracked.finished_perm (h : Tracked going ended n s) (hstopped : s.stopped = none)
    (hend : s.step act = none) : (s.finished.map (·.1)).Perm (List.range n) := by
  rw [Schedule.step, hstopped, Option.isSome_none, if_neg Bool.false_ne_true] at hend
  split at hend
  · cases hend
  · rename_i hready
    have hasleep : s.asleep = [] := nextWake_eq_none (Option.map_eq_none_iff.1 hend)
    have hwaiting : s.waiting = [] := by
      by_cases hwaiting : s.waiting = []
      · exact hwaiting
      · -- tasks wait only while somebody acts or sleeps
        rcases h.live hwaiting with hne | hne
        · exact absurd hready hne
        · exact absurd hasleep hne
    have hindices := h.perm
    rw [indices, hready, hasleep, hwaiting] at hindices
    exact hindices

/-- A run that ends finishes each of its tasks once, with a result that its acts allow. -/
theorem Tracked.finished_of_run (h : Tracked going ended n s) (hact : Keeps act going ended)
    {fuel : Nat} (hrun : Schedule.run act fuel s = some t) (hstopped : t.stopped = none) :
    (t.finished.map (·.1)).Perm (List.range n) ∧ ∀ x ∈ t.finished, ended x.1 x.2 := by
  obtain ⟨htracked, hend⟩ := h.run hact fuel hrun
  exact ⟨htracked.finished_perm hstopped hend, htracked.finished⟩

/-- The schedule that a run leaves. -/
theorem outcome_eq_ok {s t : Schedule σ τ ρ} (h : s.outcome = .ok t) :
    t = s ∧ s.stopped = none := by
  rw [outcome] at h
  split at h
  · cases h
  · rename_i hstopped
    cases h
    exact ⟨rfl, hstopped⟩

/-- What every act keeps of the world holds of it at the end. -/
theorem world_of_run {kept : σ → Prop}
    (hact : ∀ now i world task, kept world → kept (act now i world task).1) (fuel : Nat)
    (h : kept s.world) (hrun : Schedule.run act fuel s = some t) : kept t.world := by
  induction fuel generalizing s with
  | zero => cases hrun
  | succ fuel ih =>
    rw [Schedule.run] at hrun
    split at hrun
    · cases hrun
      exact h
    · rename_i next hstep
      refine ih ?_ hrun
      -- an act may change the world, and the clock does not
      rcases step_cases hstep with ⟨index, task, rest, _, rfl⟩ | ⟨time, _, _, rfl⟩
      · have hworld := hact s.now index s.world task h
        generalize act s.now index s.world task = acted at hworld ⊢
        obtain ⟨world, move⟩ := acted
        cases move with
        | sleep deadline next =>
          show kept (Schedule.moved s rest index world (.sleep deadline next)).world
          rw [moved]
          split
          · exact hworld
          · exact hworld
        | again next => exact hworld
        | done result => exact hworld
        | stop overflow next => exact hworld
      · exact h

/-! ## Runs that end -/

/-- What is left to do. A task that sleeps has yet to wake. -/
def work (rank : τ → Nat) (s : Schedule σ τ ρ) : Nat :=
  (s.ready.map fun x => 2 * rank x.2 + 1).sum + (s.asleep.map fun x => 2 * rank x.task + 2).sum
    + (s.waiting.map fun x => 2 * rank x.2 + 1).sum

/-- Every act of a task lowers its rank or ends it, and does not stop the program. -/
def Lowers (act : Act σ τ ρ) (going : σ → Nat → τ → Prop) (rank : τ → Nat) : Prop :=
  ∀ now i world task, going world i task → (act now i world task).2.GoesOn ∧
    (act now i world task).2.Leads (rank · < rank task) fun _ => True

variable {rank : τ → Nat}

theorem work_moved {index : Nat} {task : τ} {rest : List (Nat × τ)} {world : σ} {move : Move τ ρ}
    (hready : s.ready = (index, task) :: rest)
    (hmove : move.Leads (rank · < rank task) fun _ => True) :
    (s.moved rest index world move).work rank < s.work rank := by
  simp only [work, hready, List.map_cons, List.sum_cons]
  cases move with
  | sleep deadline next =>
    have hlower : rank next < rank task := hmove
    rw [moved]
    split
    · simp only [List.map_cons, List.sum_cons]
      omega
    · simp only [List.map_append, List.map_cons, List.map_nil, List.sum_append, List.sum_cons,
        List.sum_nil]
      omega
  | again next =>
    have hlower : rank next < rank task := hmove
    simp only [moved, List.map_cons, List.sum_cons]
    omega
  | done result =>
    -- the task that is started was counted among those that wait
    have hsplit : (s.waiting.map fun x => 2 * rank x.2 + 1).sum
        = ((s.waiting.take 1).map fun x => 2 * rank x.2 + 1).sum
          + ((s.waiting.drop 1).map fun x => 2 * rank x.2 + 1).sum := by
      rw [← List.sum_append, ← List.map_append, List.take_append_drop]
    simp only [moved, List.map_append, List.sum_append, hsplit]
    omega
  | stop overflow next =>
    have hlower : rank next < rank task := hmove
    simp only [moved, List.map_cons, List.sum_cons]
    omega

/-- Only a task that stops the program stops it. -/
theorem stopped_moved {index : Nat} {rest : List (Nat × τ)} {world : σ} {move : Move τ ρ}
    (hmove : move.GoesOn) : (s.moved rest index world move).stopped = s.stopped := by
  cases move with
  | sleep deadline next =>
    rw [moved]
    split <;> rfl
  | again next => rfl
  | done result => rfl
  | stop overflow next => exact absurd rfl (hmove overflow next)

theorem work_woken {time : Nat} (hready : s.ready = []) (htime : nextWake s.asleep = some time) :
    (s.woken time).work rank < s.work rank := by
  -- each task that wakes has one step less to do
  have hsum : ∀ asleep : List (Sleeper τ),
      ((asleep.filter (·.wakes = time)).map fun x => 2 * rank x.task + 1).sum
        + ((asleep.filter (·.wakes ≠ time)).map fun x => 2 * rank x.task + 2).sum
        + (asleep.filter (·.wakes = time)).length
      = (asleep.map fun x => 2 * rank x.task + 2).sum := by
    intro asleep
    induction asleep with
    | nil => rfl
    | cons x rest ih =>
      by_cases hwakes : x.wakes = time
      · -- who wakes has less left to do, by the sleep
        simp only [hwakes, List.filter_cons, List.map_cons, List.sum_cons, List.length_cons, ne_eq,
          not_true_eq_false, decide_true, decide_false, Bool.false_eq_true, if_true,
          if_false] at ih ⊢
        omega
      · simp only [hwakes, List.filter_cons, List.map_cons, List.sum_cons, ne_eq, not_false_eq_true,
          decide_true, decide_false, Bool.false_eq_true, if_true, if_false] at ih ⊢
        omega
  obtain ⟨x, hx, hwakes⟩ := exists_of_nextWake htime
  have hsome : 0 < (s.asleep.filter (·.wakes = time)).length :=
    List.length_pos_iff.2 (List.ne_nil_of_mem (List.mem_filter.2 ⟨hx, by simpa using hwakes⟩))
  have h := hsum s.asleep
  simp only [work, woken, hready, List.map_nil, List.sum_nil, List.map_map, Function.comp_def]
  omega

theorem Tracked.work_step (h : Tracked going ended n s) (hlowers : Lowers act going rank)
    (hstep : s.step act = some t) : t.work rank < s.work rank ∧ t.stopped = none := by
  have hstopped := stopped_of_step hstep
  rcases step_cases hstep with ⟨index, task, rest, hready, rfl⟩ | ⟨time, hready, htime, rfl⟩
  · have hgoing : going s.world index task :=
      h.ready (index, task) (by rw [hready]; exact List.mem_cons_self)
    obtain ⟨hgoes, hlower⟩ := hlowers s.now index s.world task hgoing
    exact ⟨work_moved hready hlower, (stopped_moved hgoes).trans hstopped⟩
  · exact ⟨work_woken hready htime, hstopped⟩

theorem run_mono {fuel fuel' : Nat} (hle : fuel ≤ fuel') (h : run act fuel s = some t) :
    run act fuel' s = some t := by
  induction hle with
  | refl => exact h
  | step _ ih => exact run_succ act _ s t ih

/-- A run ends when every act lowers the rank of its task. -/
theorem Tracked.exists_run (h : Tracked going ended n s) (hact : Keeps act going ended)
    (hlowers : Lowers act going rank) (hstopped : s.stopped = none) :
    ∃ fuel t, Schedule.run act fuel s = some t ∧ t.stopped = none := by
  -- by induction on what is left to do
  generalize hwork : s.work rank = left
  induction left using Nat.strongRecOn generalizing s with
  | ind left ih =>
    cases hstep : s.step act with
    | none => exact ⟨1, s, by rw [Schedule.run, hstep], hstopped⟩
    | some next =>
      obtain ⟨hless, hnext⟩ := h.work_step hlowers hstep
      obtain ⟨fuel, t, hrun, hend⟩ := ih _ (hwork ▸ hless) (h.step hact hstep) hnext rfl
      refine ⟨fuel + 1, t, ?_, hend⟩
      rw [Schedule.run, hstep]
      exact hrun

end Schedule

end Precis.Time
