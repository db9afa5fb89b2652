import Precis.Proofs.Time.Course

/-!
# When tasks begin and end

A task begins when it acts for the first time (`BeginsAt`), and ends when its result is there
(`EndsAt`). Between the two it acts at times that its own acts and the clock settle: a task that is
awake acts now, one that sleeps acts when it wakes, and one that waits to be started may be started
at any time.

`Timed` says of every task what its past and the time of its next act are to each other. A step
keeps it (`Timed.moved`, `Timed.woken`) when every act does (`Paced`), so at the end of a run it
holds of every result (`Paced.finished_of_run`). The clock stands at whole milliseconds all along.
-/

namespace Precis.Time

/-- The task that goes on is as it should be at the time of its next act, or its result is as it
should be now. -/
def Move.LeadsAt {τ ρ : Type} (now : Nat) (going : Nat → τ → Prop) (ended : ρ → Prop) :
    Move τ ρ → Prop
  | .sleep deadline task => going (max now (Instant.tick deadline)) task
  | .again task => going now task
  | .done result => ended result
  | .stop _ task => going now task

namespace Schedule

variable {σ τ ρ : Type} {act : Act σ τ ρ} {s t : Schedule σ τ ρ} {n : Nat}

/-- The task acts for the first time at this time. -/
def BeginsAt (act : Act σ τ ρ) (s : Schedule σ τ ρ) (i time : Nat) : Prop :=
  ∃ n, i ∉ actors act s n ∧ i ∈ actors act s (n + 1) ∧ (after act s n).now = time

/-- The result of the task is there from this time on. -/
def EndsAt (act : Act σ τ ρ) (s : Schedule σ τ ρ) (i time : Nat) (result : ρ) : Prop :=
  ∃ n, (∀ x ∈ (after act s n).finished, x.1 ≠ i) ∧ (i, result) ∈ (after act s (n + 1)).finished ∧
    (after act s (n + 1)).now = time

/-- The time at which a task began, if it has begun within so many steps. -/
def Begun (act : Act σ τ ρ) (s : Schedule σ τ ρ) (n i : Nat) : Option Nat → Prop
  | none => i ∉ actors act s n
  | some time => BeginsAt act s i time

theorem Begun.other {i j : Nat} {begun : Option Nat} {task : τ} {rest : List (Nat × τ)}
    (h : Begun act s n j begun) (hfront : (after act s n).front = (i, task) :: rest) (hne : j ≠ i) :
    Begun act s (n + 1) j begun := by
  cases begun with
  | none =>
    intro hj
    rw [actors_succ_of_front hfront, List.mem_append, List.mem_singleton] at hj
    rcases hj with hj | hj
    · exact h hj
    · exact hne hj
  | some time => exact h

/-- Whoever acts has begun, now or before. -/
theorem Begun.own {i : Nat} {begun : Option Nat} {task : τ} {rest : List (Nat × τ)}
    (h : Begun act s n i begun) (hfront : (after act s n).front = (i, task) :: rest) :
    Begun act s (n + 1) i (some (begun.getD (after act s n).now)) := by
  cases begun with
  | none =>
    refine ⟨n, h, ?_, rfl⟩
    rw [actors_succ_of_front hfront]
    exact List.mem_append_right _ (List.mem_singleton.2 rfl)
  | some time => exact h

theorem begun_succ_of_idle (h : (after act s n).front = []) :
    Begun act s (n + 1) = Begun act s n := by
  funext i begun
  cases begun with
  | none => rw [Begun, Begun, actors_succ_of_idle h]
  | some time => rfl

/-! ## The invariant -/

/-- What an act does to its task and to the others, when it comes at its time. The task began at
`begun`, or begins now; the third number is the time of its next act. -/
structure Paced (act : Act σ τ ρ) (going : σ → Nat → Option Nat → Nat → τ → Prop)
    (ended : σ → Nat → Nat → Nat → ρ → Prop) : Prop where
  self : ∀ now i world begun task, Instant.tick now = now → going world i begun now task →
    (act now i world task).2.LeadsAt now (going (act now i world task).1 i (some (begun.getD now)))
      (ended (act now i world task).1 i (begun.getD now) now)
  others : ∀ now i world begun task, going world i begun now task → ∀ j, j ≠ i →
    (∀ begun' time other, going world j begun' time other →
      going (act now i world task).1 j begun' time other) ∧
    ∀ begun' time result, ended world j begun' time result →
      ended (act now i world task).1 j begun' time result

/-- Each task is as it should be at the time of its next act, and each result as it should be at the
time at which it was there. -/
structure Timed (begun : Nat → Option Nat → Prop) (settled : Nat → Nat → ρ → Prop)
    (going : σ → Nat → Option Nat → Nat → τ → Prop) (ended : σ → Nat → Nat → Nat → ρ → Prop)
    (s : Schedule σ τ ρ) : Prop where
  clock : Instant.tick s.now = s.now
  ready : ∀ x ∈ s.ready, ∃ b, begun x.1 b ∧ going s.world x.1 b s.now x.2
  asleep : ∀ x ∈ s.asleep, Instant.tick x.wakes = x.wakes ∧
    ∃ b, begun x.index b ∧ going s.world x.index b x.wakes x.task
  waiting : ∀ x ∈ s.waiting, begun x.1 none ∧ ∀ time, going s.world x.1 none time x.2
  finished : ∀ x ∈ s.finished, ∃ b time, begun x.1 (some b) ∧ settled x.1 time x.2 ∧
    ended s.world x.1 b time x.2

variable {begun begun' : Nat → Option Nat → Prop} {settled : Nat → Nat → ρ → Prop}
  {going : σ → Nat → Option Nat → Nat → τ → Prop} {ended : σ → Nat → Nat → Nat → ρ → Prop}

theorem timed_start {tasks : List τ} {now : Nat} {world : σ} (cap : Nat)
    (hnow : Instant.tick now = now) (hbegun : ∀ i, begun i none)
    (htasks : ∀ i task, tasks[i]? = some task → ∀ time, going world i none time task) :
    Timed begun settled going ended (start now world cap tasks) := by
  have hgoing : ∀ x ∈ numbered 0 tasks, ∀ time, going world x.1 none time x.2 := by
    intro x hx
    exact htasks x.1 x.2 (mem_numbered hx).2
  refine ⟨hnow, ?_, ?_, ?_, ?_⟩
  · intro x hx
    exact ⟨none, hbegun x.1, hgoing x (List.mem_of_mem_take hx) now⟩
  · intro x hx
    cases hx
  · intro x hx
    exact ⟨hbegun x.1, hgoing x (List.mem_of_mem_drop hx)⟩
  · intro x hx
    cases hx

/-- The tasks and results beside the task that acts stay as they should be. -/
theorem Timed.others {tracked : σ → Nat → τ → Prop} {result : Nat → ρ → Prop} {i : Nat} {task : τ}
    {rest : List (Nat × τ)} {world : σ} (h : Timed begun settled going ended s)
    (htracked : Tracked tracked result n s) (hready : s.ready = (i, task) :: rest)
    (hbegun : ∀ j b, j ≠ i → begun j b → begun' j b)
    (hothers : ∀ j, j ≠ i →
      (∀ b time other, going s.world j b time other → going world j b time other) ∧
      ∀ b time result, ended s.world j b time result → ended world j b time result) :
    (∀ x ∈ rest, ∃ b, begun' x.1 b ∧ going world x.1 b s.now x.2) ∧
    (∀ x ∈ s.asleep, Instant.tick x.wakes = x.wakes ∧
      ∃ b, begun' x.index b ∧ going world x.index b x.wakes x.task) ∧
    (∀ x ∈ s.waiting, begun' x.1 none ∧ ∀ time, going world x.1 none time x.2) ∧
    ∀ x ∈ s.finished, ∃ b time, begun' x.1 (some b) ∧ settled x.1 time x.2 ∧
      ended world x.1 b time x.2 := by
  obtain ⟨hrest, hasleep, hwaiting, hfinished⟩ := htracked.index_ne hready
  have hreadyAll := h.ready
  rw [hready] at hreadyAll
  refine ⟨?_, ?_, ?_, ?_⟩
  · intro x hx
    obtain ⟨b, hb, hx'⟩ := hreadyAll x (List.mem_cons_of_mem _ hx)
    exact ⟨b, hbegun _ _ (hrest x hx) hb, (hothers _ (hrest x hx)).1 _ _ _ hx'⟩
  · intro x hx
    obtain ⟨hwakes, b, hb, hx'⟩ := h.asleep x hx
    exact ⟨hwakes, b, hbegun _ _ (hasleep x hx) hb, (hothers _ (hasleep x hx)).1 _ _ _ hx'⟩
  · intro x hx
    obtain ⟨hb, hx'⟩ := h.waiting x hx
    exact ⟨hbegun _ _ (hwaiting x hx) hb,
      fun time => (hothers _ (hwaiting x hx)).1 _ _ _ (hx' time)⟩
  · intro x hx
    obtain ⟨b, time, hb, htime, hx'⟩ := h.finished x hx
    exact ⟨b, time, hbegun _ _ (hfinished x hx) hb, htime, (hothers _ (hfinished x hx)).2 _ _ _ hx'⟩

/-- Whatever the first task that is awake does, everybody keeps time. -/
theorem Timed.moved {tracked : σ → Nat → τ → Prop} {result : Nat → ρ → Prop} {i : Nat} {task : τ}
    {rest : List (Nat × τ)} (h : Timed begun settled going ended s) (hact : Paced act going ended)
    (htracked : Tracked tracked result n s) (hready : s.ready = (i, task) :: rest)
    (hother : ∀ j b, j ≠ i → begun j b → begun' j b)
    (hown : ∀ b, begun i b → begun' i (some (b.getD s.now)))
    (hsettled : ∀ r, (act s.now i s.world task).2 = .done r → settled i s.now r) :
    Timed begun' settled going ended
      (s.moved rest i (act s.now i s.world task).1 (act s.now i s.world task).2) := by
  obtain ⟨b, hb, hgoing⟩ := h.ready (i, task) (by rw [hready]; exact List.mem_cons_self)
  have hself := hact.self s.now i s.world b task h.clock hgoing
  -- the others are where they were, in a world that they do not mind
  obtain ⟨hready', hasleep', hwaiting', hfinished'⟩ :=
    h.others htracked hready hother (hact.others s.now i s.world b task hgoing)
  have hbegun := hown b hb
  generalize (act s.now i s.world task).2 = move at hself hsettled ⊢
  generalize (act s.now i s.world task).1 = world at hself hready' hasleep' hwaiting' hfinished' ⊢
  cases move with
  | sleep deadline next =>
    rw [Schedule.moved]
    split
    · -- the deadline is over, so the next act comes now
      rename_i hpast
      have htime : max s.now (Instant.tick deadline) = s.now := Nat.max_eq_left hpast
      rw [Move.LeadsAt, htime] at hself
      exact ⟨h.clock, List.forall_mem_cons.2 ⟨⟨_, hbegun, hself⟩, hready'⟩, hasleep', hwaiting',
        hfinished'⟩
    · rename_i hlater
      have htime : max s.now (Instant.tick deadline) = Instant.tick deadline :=
        Nat.max_eq_right (Nat.le_of_lt (Nat.lt_of_not_le hlater))
      rw [Move.LeadsAt, htime] at hself
      refine ⟨h.clock, hready', ?_, hwaiting', hfinished'⟩
      intro x hx
      rcases List.mem_append.1 hx with hx | hx
      · exact hasleep' x hx
      · rw [List.mem_singleton.1 hx]
        exact ⟨Instant.tick_tick deadline, _, hbegun, hself⟩
  | again next =>
    exact ⟨h.clock, List.forall_mem_cons.2 ⟨⟨_, hbegun, hself⟩, hready'⟩, hasleep', hwaiting',
      hfinished'⟩
  | done r =>
    refine ⟨h.clock, ?_, hasleep', ?_, ?_⟩
    · intro x hx
      rcases List.mem_append.1 hx with hx | hx
      · exact hready' x hx
      · -- the task that is started may start now
        obtain ⟨hb', hx'⟩ := hwaiting' x (List.mem_of_mem_take hx)
        exact ⟨none, hb', hx' s.now⟩
    · intro x hx
      exact hwaiting' x (List.mem_of_mem_drop hx)
    · intro x hx
      rcases List.mem_append.1 hx with hx | hx
      · exact hfinished' x hx
      · rw [List.mem_singleton.1 hx]
        exact ⟨_, _, hbegun, hsettled r rfl, hself⟩
  | stop overflow next =>
    exact ⟨h.clock, List.forall_mem_cons.2 ⟨⟨_, hbegun, hself⟩, hready'⟩, hasleep', hwaiting',
      hfinished'⟩

theorem Timed.woken {time : Nat} (h : Timed begun settled going ended s)
    (htime : nextWake s.asleep = some time) : Timed begun settled going ended (s.woken time) := by
  refine ⟨?_, ?_, ?_, h.waiting, h.finished⟩
  · -- somebody sleeps until then
    obtain ⟨x, hx, hwakes⟩ := exists_of_nextWake htime
    show Instant.tick time = time
    rw [← hwakes]
    exact (h.asleep x hx).1
  · intro x hx
    obtain ⟨y, hy, rfl⟩ := List.mem_map.1 hx
    obtain ⟨hy, hwakes⟩ := List.mem_filter.1 hy
    obtain ⟨_, b, hb, hgoing⟩ := h.asleep y hy
    rw [of_decide_eq_true hwakes] at hgoing
    exact ⟨b, hb, hgoing⟩
  · intro x hx
    exact h.asleep x (List.mem_filter.1 hx).1

/-! ## A run -/

/-- Every moment of a run keeps time. -/
theorem Timed.kept {total : Nat} (hact : Paced act going ended)
    (htracked : Tracked (fun _ _ _ => True) (fun _ _ => True) total s)
    (h : Timed (Begun act s 0) (EndsAt act s) going ended s) (n : Nat) :
    Timed (Begun act s n) (EndsAt act s) going ended (after act s n) := by
  have hkeeps : Keeps act (fun _ _ _ => True) fun _ _ => True := by
    refine ⟨?_, fun _ _ _ _ _ _ _ _ _ => trivial⟩
    intro now i world task _
    cases (act now i world task).2 <;> trivial
  induction n with
  | zero => exact h
  | succ n ih =>
    have htracked' : Tracked (fun _ _ _ => True) (fun _ _ => True) total (after act s n) :=
      after_induction htracked (fun _ _ hn hstep => hn.step hkeeps hstep) n
    rcases after_succ act s n with hstep | ⟨hstep, hsame⟩
    · have hfront := front_eq_ready (stopped_of_step hstep)
      rcases step_cases hstep with ⟨i, task, rest, hready, ht⟩ | ⟨time, hready, htime, ht⟩
      · rw [ht]
        rw [hready] at hfront
        refine ih.moved hact htracked' hready ?_ (fun b hb => hb.own hfront) ?_
        · exact fun j b hne hb => hb.other hfront hne
        · -- a result is there as soon as its task is done, and was not there before
          intro r hdone
          refine ⟨n, (htracked'.index_ne hready).2.2.2, ?_, ?_⟩
          · rw [ht, hdone]
            exact List.mem_append_right _ (List.mem_singleton.2 rfl)
          · rw [ht, now_moved]
      · rw [ht, begun_succ_of_idle (hfront.trans hready)]
        exact ih.woken htime
    · rw [hsame, begun_succ_of_idle (front_of_step_eq_none hstep)]
      exact ih

/-- At the end of a run each task has a result, which was there at a time that goes with the time at
which the task began. -/
theorem Paced.finished_of_run {tasks : List τ} {now cap fuel : Nat} {world : σ}
    (hact : Paced act going ended) (hcap : 0 < cap) (hnow : Instant.tick now = now)
    (htasks : ∀ i task, tasks[i]? = some task → ∀ time, going world i none time task)
    (hrun : run act fuel (start now world cap tasks) = some t) :
    ∀ x ∈ t.finished, ∃ b time, BeginsAt act (start now world cap tasks) x.1 b ∧
      EndsAt act (start now world cap tasks) x.1 time x.2 ∧ ended t.world x.1 b time x.2 := by
  obtain ⟨rfl, _⟩ := after_of_run hrun
  have htracked : Tracked (fun _ _ _ => True) (fun _ _ => True) tasks.length
      (start now world cap tasks : Schedule σ τ ρ) :=
    tracked_start now hcap fun _ _ _ => trivial
  have hstart :
      Timed (Begun act (start now world cap tasks) 0) (EndsAt act (start now world cap tasks))
      going ended (start now world cap tasks) :=
    timed_start cap hnow (fun _ => List.not_mem_nil) htasks
  exact (hstart.kept hact htracked fuel).finished

end Schedule

end Precis.Time
