import Precis.Proofs.Dispatch.Acts
import Precis.Proofs.Rate.Pause
import Precis.Proofs.Time.Course

/-!
# Dispatches that share a limiter

Several dispatches run at one time, each with its own settings, provider and requests, and share one
limiter. They take turns in any order (`Fleet.Turn`): a task that is awake acts, one whose time has
come wakes, time passes, or another dispatch joins. Tasks need not wake in time, nor act in the
order in which they woke, so what holds of every run holds whatever puts the turns in order. Nor is
a member held back that was stopped: that its tasks act no more is one of the orders. A dispatch
alone is one of these runs (`alone_run`).

When an attempt ends with too many calls and its request tries again after a delay, no call of any
dispatch starts before the delay is over (`backoff_kept`). The invariant is `Awaits`: the bucket is
shut until then, and the log has had no start of a call since.
-/

namespace Precis.Dispatch

open Time

/-- A dispatch among others: its tasks, as in a schedule whose clock and world are those of all. -/
structure Member (σ : Type) where
  settings : DispatchSettings
  provider : Provider σ
  ready : List (Nat × Task)
  asleep : List (Sleeper Task) := []
  waiting : List (Nat × Task) := []
  finished : List (Nat × Result) := []

/-- Dispatches with one clock and one world. -/
structure Fleet (α σ : Type) where
  now : Nat
  world : World α σ
  members : List (Member σ) := []

namespace Member

variable {α σ : Type}

/-- The tasks of a schedule. -/
def ofSchedule (settings : DispatchSettings) (provider : Provider σ)
    (s : Schedule (World α σ) Task Result) : Member σ :=
  { settings
    provider
    ready := s.ready
    asleep := s.asleep
    waiting := s.waiting
    finished := s.finished }

/-- The schedule of a member. -/
def schedule (m : Member σ) (now : Nat) (world : World α σ) : Schedule (World α σ) Task Result :=
  { now, world, ready := m.ready, asleep := m.asleep, waiting := m.waiting, finished := m.finished }

theorem schedule_ofSchedule (settings : DispatchSettings) (provider : Provider σ)
    {s : Schedule (World α σ) Task Result} (h : s.stopped = none) :
    (ofSchedule settings provider s).schedule s.now s.world = s := by
  obtain ⟨now, world, ready, asleep, waiting, finished, stopped⟩ := s
  cases h
  rfl

end Member

namespace Fleet

variable {α σ : Type} [Quantity α]

/-- What happens next. -/
inductive Turn (σ : Type) where
  /-- Of the member `k` the `j`-th task that is awake acts. -/
  | act (k j : Nat)
  /-- Of the member `k` the `j`-th task that sleeps wakes, if its time has come. -/
  | wake (k j : Nat)
  | pass (span : Nat)
  /-- A dispatch of these requests begins. -/
  | join (settings : DispatchSettings) (provider : Provider σ) (requests : List Request)

/-- The fleet after a task acted. -/
def acted (f : Fleet α σ) (k j : Nat) (m : Member σ) (i : Nat) (task : Task) : Fleet α σ :=
  let (world, move) := Task.act m.settings m.provider f.now i f.world task
  let s := (m.schedule f.now f.world).moved (m.ready.eraseIdx j) i world move
  { f with world, members := f.members.set k (.ofSchedule m.settings m.provider s) }

omit [Quantity α] in
/-- The fleet after a task woke. -/
def woken (f : Fleet α σ) (k j : Nat) (m : Member σ) (x : Sleeper Task) : Fleet α σ :=
  let m := { m with ready := m.ready ++ [(x.index, x.task)], asleep := m.asleep.eraseIdx j }
  { f with members := f.members.set k m }

/-- One turn. Nothing happens where there is no such task. -/
def turn (f : Fleet α σ) : Turn σ → Fleet α σ
  | .act k j =>
    match f.members[k]? with
    | none => f
    | some m =>
      match m.ready[j]? with
      | none => f
      | some (i, task) => f.acted k j m i task
  | .wake k j =>
    match f.members[k]? with
    | none => f
    | some m =>
      match m.asleep[j]? with
      | none => f
      | some x => if x.wakes ≤ f.now then f.woken k j m x else f
  | .pass span => { f with now := f.now + span }
  | .join settings provider requests =>
    let m := .ofSchedule settings provider (start settings f.world f.now requests)
    { f with members := f.members ++ [m] }

/-- Turns one after the other. -/
def run (f : Fleet α σ) (turns : List (Turn σ)) : Fleet α σ := turns.foldl turn f

variable {settings : DispatchSettings} {provider : Provider σ} {f : Fleet α σ}

theorem run_cons (f : Fleet α σ) (next : Turn σ) (turns : List (Turn σ)) :
    f.run (next :: turns) = (f.turn next).run turns := rfl

theorem run_append (f : Fleet α σ) (turns more : List (Turn σ)) :
    f.run (turns ++ more) = (f.run turns).run more := List.foldl_append

theorem turn_act {k j i : Nat} {m : Member σ} {task : Task} (hmember : f.members[k]? = some m)
    (hawake : m.ready[j]? = some (i, task)) : f.turn (.act k j) = f.acted k j m i task := by
  simp only [turn, hmember, hawake]

theorem turn_wake {k j : Nat} {m : Member σ} {x : Sleeper Task} (hmember : f.members[k]? = some m)
    (hasleep : m.asleep[j]? = some x) (hwakes : x.wakes ≤ f.now) :
    f.turn (.wake k j) = f.woken k j m x := by
  simp only [turn, hmember, hasleep, if_pos hwakes]

/-- A turn is the act of a task that is awake, or no task acts: it leaves the world alone, and time
does not go back. -/
theorem turn_cases (f : Fleet α σ) (next : Turn σ) :
    (∃ k j m i task, next = .act k j ∧ f.members[k]? = some m ∧ m.ready[j]? = some (i, task)) ∨
    (f.now ≤ (f.turn next).now ∧ (f.turn next).world = f.world ∧
      ∀ k j m, next = .act k j → f.members[k]? = some m → m.ready[j]? = none) := by
  have hsame : f.now ≤ f.now ∧ f.world = f.world := ⟨Nat.le_refl _, rfl⟩
  cases next with
  | act k j =>
    -- nobody of this number, or no such task awake: nothing happens
    cases hmember : f.members[k]? with
    | none =>
      have hturn : f.turn (.act k j) = f := by simp only [turn, hmember]
      rw [hturn]
      refine Or.inr ⟨Nat.le_refl _, rfl, ?_⟩
      intro k' j' m hact hsome
      cases hact
      cases hmember.symm.trans hsome
    | some m =>
      cases hawake : m.ready[j]? with
      | none =>
        have hturn : f.turn (.act k j) = f := by simp only [turn, hmember, hawake]
        rw [hturn]
        refine Or.inr ⟨Nat.le_refl _, rfl, ?_⟩
        intro k' j' m' hact hsome
        cases hact
        cases hmember.symm.trans hsome
        exact hawake
      | some entry => exact Or.inl ⟨k, j, m, entry.1, entry.2, rfl, hmember, hawake⟩
  | wake k j =>
    have hturn : f.now ≤ (f.turn (.wake k j)).now ∧ (f.turn (.wake k j)).world = f.world := by
      -- whatever it finds, waking leaves time and world alone
      rw [turn]
      split
      · exact hsame
      · split
        · exact hsame
        · split
          · exact hsame
          · exact hsame
    exact Or.inr ⟨hturn.1, hturn.2, fun _ _ _ hact => nomatch hact⟩
  | pass span => exact Or.inr ⟨Nat.le_add_right _ _, rfl, fun _ _ _ hact => nomatch hact⟩
  | join settings provider requests =>
    exact Or.inr ⟨Nat.le_refl _, rfl, fun _ _ _ hact => nomatch hact⟩

/-! ## A dispatch alone -/

omit [Quantity α] in
/-- A fleet of one. -/
def alone (settings : DispatchSettings) (provider : Provider σ)
    (s : Schedule (World α σ) Task Result) : Fleet α σ :=
  { now := s.now, world := s.world, members := [.ofSchedule settings provider s] }

variable {s t : Schedule (World α σ) Task Result}

/-- All tasks of a member that sleep until now wake one by one. The first ones are already seen
to. -/
theorem exists_run_wake (m : Member σ) (now : Nat) (world : World α σ)
    (kept asleep : List (Sleeper Task)) : ∃ turns,
    ({ now, world, members := [{ m with asleep := kept ++ asleep }] } : Fleet α σ).run turns =
      { now
        world
        members :=
          [{ m with
              ready := m.ready ++ (asleep.filter (·.wakes = now)).map fun x => (x.index, x.task)
              asleep := kept ++ asleep.filter (·.wakes ≠ now) }] } := by
  induction asleep generalizing m kept with
  | nil => exact ⟨[], by simp [run]⟩
  | cons x rest ih =>
    by_cases hx : x.wakes = now
    · -- it wakes behind those that are awake, and the others are one fewer
      obtain ⟨turns, hturns⟩ := ih { m with ready := m.ready ++ [(x.index, x.task)] } kept
      refine ⟨.wake 0 kept.length :: turns, ?_⟩
      have hget : (kept ++ x :: rest)[kept.length]? = some x := by simp
      have herase : (kept ++ x :: rest).eraseIdx kept.length = kept ++ rest := by
        rw [List.eraseIdx_append_of_length_le (Nat.le_refl _), Nat.sub_self,
          List.eraseIdx_cons_zero]
      rw [run_cons, turn_wake rfl hget (Nat.le_of_eq hx), woken]
      simp only [List.set_cons_zero, herase]
      rw [hturns]
      simp [hx]
    · -- it sleeps on
      obtain ⟨turns, hturns⟩ := ih m (kept ++ [x])
      refine ⟨turns, ?_⟩
      rw [List.append_assoc, List.singleton_append] at hturns
      rw [hturns]
      simp [hx]

/-- A step of a dispatch is some turns of a fleet of one. -/
theorem exists_run_step (hahead : s.Ahead) (hstep : s.step (Task.act settings provider) = some t) :
    ∃ turns, (alone settings provider s).run turns = alone settings provider t := by
  have hnow : s.now ≤ t.now := hahead.now_le hstep
  -- a task acts, or all are asleep and time goes on
  rcases Schedule.step_cases hstep with ⟨i, task, rest, hready, rfl⟩ | ⟨time, hready, _, rfl⟩
  · have hfirst : s.ready[0]? = some (i, task) := by
      rw [hready]
      rfl
    have hothers : s.ready.eraseIdx 0 = rest := by
      rw [hready]
      rfl
    refine ⟨[.act 0 0], ?_⟩
    have hsame := Member.schedule_ofSchedule settings provider (Schedule.stopped_of_step hstep)
    rw [run_cons, turn_act rfl hfirst, acted]
    simp only [alone, Schedule.now_moved, Schedule.world_moved]
    rw [hsame, ← hothers]
    rfl
  · -- time passes, and then they wake
    obtain ⟨turns, hturns⟩ :=
      exists_run_wake (.ofSchedule settings provider s) time s.world [] s.asleep
    refine ⟨.pass (time - s.now) :: turns, ?_⟩
    have hpass : (alone settings provider s).turn (.pass (time - s.now)) =
        { alone settings provider s with now := time } := by
      rw [turn]
      have htime : s.now + (time - s.now) = time := Nat.add_sub_cancel' hnow
      simp only [alone, htime]
    rw [run_cons, hpass]
    refine hturns.trans ?_
    simp only [alone, Member.ofSchedule, Schedule.woken, hready, List.nil_append]

/-- Each moment of a dispatch is one of a fleet that nobody else joins. -/
theorem alone_run (settings : DispatchSettings) (provider : Provider σ) (w : World α σ) (now : Nat)
    (requests : List Request) (n : Nat) :
    let moment := (start settings w now requests).after (Task.act settings provider) n
    ∃ turns, ({ now, world := w } : Fleet α σ).run (.join settings provider requests :: turns) =
      alone settings provider moment := by
  have hahead : ∀ n, ((start settings w now requests).after (Task.act settings provider) n).Ahead :=
    Schedule.after_induction (Schedule.ahead_start _ _ _ _) fun _ _ => Schedule.Ahead.step
  induction n with
  | zero => exact ⟨[], rfl⟩
  | succ n ih =>
    obtain ⟨turns, hturns⟩ := ih
    rcases Schedule.after_succ (Task.act settings provider) (start settings w now requests) n with
      hstep | ⟨_, hsame⟩
    · obtain ⟨more, hmore⟩ := exists_run_step (hahead n) hstep
      refine ⟨turns ++ more, ?_⟩
      rw [← List.cons_append, run_append, hturns, hmore]
    · -- the dispatch is over, and stands still
      refine ⟨turns, ?_⟩
      rw [hsame, hturns]

end Fleet

/-! ## Nobody calls before the delay is over -/

/-- The bucket is shut until `release`, and no call that the log has beyond `since` started before
then. -/
structure Awaits {α σ : Type} (release now : Nat) (since : List Event) (w : World α σ) : Prop where
  shut : ∃ l, w.limiter = some l ∧ l.bucket.Shut release now
  log : ∃ later, w.log = since ++ later ∧ ∀ i time, .started i time ∈ later → release ≤ time

section Awaits

variable {α σ : Type} {release now i : Nat} {since : List Event} {w w' : World α σ}
  {task task' : Task}

theorem Awaits.later {time : Nat} (h : Awaits release now since w) (htime : now ≤ time) :
    Awaits release time since w := by
  obtain ⟨l, hlimiter, hshut⟩ := h.shut
  exact ⟨⟨l, hlimiter, hshut.later htime⟩, h.log⟩

/-- An event that is not the start of a call too early may be added. -/
theorem Awaits.concat {event : Event} (h : Awaits release now since w)
    (hlimiter : w'.limiter = w.limiter) (hlog : w'.log = w.log ++ [event])
    (hevent : ∀ i time, event = .started i time → release ≤ time) :
    Awaits release now since w' := by
  obtain ⟨later, hlater, hstarts⟩ := h.log
  refine ⟨hlimiter ▸ h.shut, later ++ [event], ?_, ?_⟩
  · rw [hlog, hlater, List.append_assoc]
  · intro i time hmem
    rcases List.mem_append.1 hmem with hmem | hmem
    · exact hstarts i time hmem
    · exact hevent i time (List.mem_singleton.1 hmem).symm

/-- The end of a call starts none. -/
theorem Awaits.overWorld (h : Awaits release now since w) (start : Nat) (cut : Bool) :
    Awaits release now since (Task.overWorld now i w task start cut) := by
  refine h.concat rfl rfl ?_
  intro j time hevent
  cases hevent

variable [Quantity α] {settings : DispatchSettings} {provider : Provider σ}

/-- Who asks gets no permit before the time, and leaves the bucket shut. -/
theorem Awaits.ask {l l' : Limiter α} {caller : Caller} {answer : Limiter.Answer}
    (h : Awaits release now since w) (hlimiter : w.limiter = some l)
    (hask : l.ask caller now = (answer, l')) :
    Awaits release now since { w with limiter := some l' } ∧
      (answer = .granted → release ≤ now) := by
  obtain ⟨l₀, hsome, hshut⟩ := h.shut
  cases hlimiter.symm.trans hsome
  have htouches := Limiter.touches_ask l caller now
  rw [hask] at htouches
  obtain ⟨hshut', hgrants⟩ := hshut.touches htouches
  refine ⟨⟨⟨l', rfl, hshut'⟩, h.log⟩, ?_⟩
  intro hgranted
  exact hgrants (congrArg some (decide_eq_true hgranted))

/-- A call comes no earlier than its permit. -/
theorem Awaits.call (h : Awaits release now since w)
    (hpermitted : Task.Permitted now w task w' task') :
    Awaits release now since (Task.call settings provider now i w' task').1 := by
  cases hpermitted with
  | free hlimiter =>
    -- the limiter is still there
    obtain ⟨l, hsome, _⟩ := h.shut
    cases hlimiter.symm.trans hsome
  | granted hlimiter _ hanswer =>
    obtain ⟨hasked, hgranted⟩ := h.ask hlimiter hanswer
    refine hasked.concat rfl rfl ?_
    intro j time hevent
    cases hevent
    exact hgranted rfl

/-- A further pause comes on top of the first one. -/
theorem Awaits.failed (h : Awaits release now since w) (e : CallError) (called : Bool) :
    Awaits release now since (Task.failed settings now i w task e called).1 := by
  rcases Task.failed_cases settings now i w task e called with ⟨_, hfailed⟩ | ⟨_, hfailed⟩
  · rw [hfailed]
    -- too many calls pause the limiter once more, any other error leaves it
    rcases Task.pause_cases now i w e (task.delay settings e) called with
      ⟨l, _, hlimiter, hpause⟩ | ⟨_, hpause⟩
    · obtain ⟨l₀, hsome, hshut⟩ := h.shut
      cases hlimiter.symm.trans hsome
      have hpaused : Awaits release now since
          { w with
            limiter := some { l with bucket := l.bucket.pauseFor (task.delay settings e) now } } :=
        ⟨⟨_, rfl, hshut.pauseFor _⟩, h.log⟩
      rw [hpause]
      refine hpaused.concat rfl rfl ?_
      intro j time hevent
      cases hevent
    · rw [hpause]
      exact h
  · rw [hfailed]
    exact h

/-- Whatever a task does, all go on waiting. -/
theorem Awaits.act (h : Awaits release now since w) :
    Awaits release now since (Task.act settings provider now i w task).1 := by
  have hacted := Task.acted settings provider now i w task
  generalize Task.act settings provider now i w task = next at hacted ⊢
  cases hacted with
  | empty => exact h
  | calls _ hpermitted => exact h.call hpermitted
  | waits _ hlimiter _ hanswer => exact (h.ask hlimiter hanswer).1
  | overflows _ hlimiter _ hanswer => exact (h.ask hlimiter hanswer).1
  | answered => exact h.overWorld _ _
  | fails _ hfails =>
    cases hfails with
    | refused hlimiter _ hanswer => exact (h.ask hlimiter hanswer).1.failed _ _
    | called => exact (h.overWorld _ _).failed _ _

end Awaits

namespace Fleet

variable {α σ : Type} [Quantity α] {release : Nat} {since : List Event} {f : Fleet α σ}

theorem awaits_turn (h : Awaits release f.now since f.world) (next : Turn σ) :
    Awaits release (f.turn next).now since (f.turn next).world := by
  rcases f.turn_cases next with ⟨k, j, m, i, task, rfl, hmember, hawake⟩ | ⟨hnow, hworld, _⟩
  · -- a task acts, or time may pass
    rw [turn_act hmember hawake]
    exact h.act
  · rw [hworld]
    exact h.later hnow

theorem awaits_run (h : Awaits release f.now since f.world) (turns : List (Turn σ)) :
    Awaits release (f.run turns).now since (f.run turns).world := by
  induction turns generalizing f with
  | nil => exact h
  | cons next rest ih => exact ih (awaits_turn h next)

/-- When an attempt ends with too many calls and its request tries again after a delay, the pause is
recorded, and no member of the fleet starts a call from then on until the delay is over, whatever
turns follow. -/
theorem backoff_kept {k j i : Nat} {m : Member σ} {task task' : Task} {l : Limiter α}
    {w' : World α σ} {e : CallError} {called : Bool} (hmember : f.members[k]? = some m)
    (hawake : m.ready[j]? = some (i, task)) (hitems : task.request.items.isEmpty = false)
    (hlimiter : f.world.limiter = some l)
    (hfails : task.Fails m.settings f.now i f.world w' task' e called) (hkind : e.kind = .rateLimit)
    (hagain : task'.triesAgain m.settings e = true) (turns : List (Turn σ)) :
    let paused := f.turn (.act k j)
    let span := task'.delay m.settings e
    paused.world.log = w'.log ++ [.paused i f.now span called] ∧
      ∃ later, (paused.run turns).world.log = paused.world.log ++ later ∧
        ∀ i' time, .started i' time ∈ later → f.now + span ≤ time := by
  intro paused span
  obtain ⟨l', hlimiter'⟩ := hfails.limiter hlimiter
  have hact : Task.act m.settings m.provider f.now i f.world task =
      Task.failed m.settings f.now i w' task' e called := hfails.act_eq hitems
  have hworld : paused.world =
      { w' with
        limiter := some { l' with bucket := l'.bucket.pauseFor span f.now }
        log := w'.log ++ [.paused i f.now span called] } := by
    show (f.turn (.act k j)).world = _
    rw [turn_act hmember hawake, acted, hact, Task.failed, if_pos hagain]
    exact Task.pause_eq hkind hlimiter' span called
  have hnow : paused.now = f.now := by
    show (f.turn (.act k j)).now = _
    rw [turn_act hmember hawake]
    rfl
  have hawaits : Awaits (f.now + span) paused.now paused.world.log paused.world := by
    refine ⟨⟨_, by rw [hworld], ?_⟩, [], (List.append_nil _).symm, ?_⟩
    · exact Bucket.shut_pauseFor l'.bucket span f.now paused.now
    · -- no event has been added since the pause
      intro i' time hmem
      cases hmem
  exact ⟨by rw [hworld], (awaits_run hawaits turns).log⟩

namespace Busy

open Time.Span (ofMillis)

/-- A request of one post. -/
def request (id : Nat) : Request :=
  { id
    items := [{ id := 1, title := "a post", content := "about it", timestamp := .epoch }]
    estimatedTokens := 10 }

/-- Too many calls; the next one is welcome in two seconds. -/
def tooMany : CallError :=
  { CallError.ofStatus 429 "slow down" with retryAfter := some (ofMillis 2000) }

/-- Its call has come back with too many calls. -/
def limited : Task :=
  { request := request 0, attempts := 1, phase := .calling 0 (.failed tooMany) false }

/-- One member has the limited task. -/
def first : Member Unit :=
  { settings := { }
    provider := fun _ _ _ => ({ millis := 30, result := .failed tooMany }, ())
    ready := [(0, limited)] }

/-- Another one makes one call at a time: one is on its way, and a request waits for its end. -/
def second : Member Unit :=
  let call : Task :=
    { request := request 0, attempts := 1, phase := .calling 0 (.answered []) false }
  { settings := { concurrency := 1 }
    provider := fun _ _ _ => ({ millis := 40, result := .answered [] }, ())
    ready := []
    asleep := [⟨ofMillis 40, 0, call⟩]
    waiting := [(1, { request := request 1 })] }

/-- Both called 30 ms ago. -/
def fleet : Fleet Rat Unit :=
  let bucket : Bucket Rat := { config := { rate := 10, burst := 10 }, permits := 8, mark := 0 }
  { now := ofMillis 30
    world :=
      { limiter := some { label := "api", bucket }
        provider := ()
        log := [.started 0 0, .started 0 0] }
    members := [first, second] }

/-- The second member ends its call, asks for the next one, waits, and calls. -/
def turns : List (Turn Unit) :=
  [.pass (ofMillis 10), .wake 1 0, .act 1 0, .act 1 0, .pass (ofMillis 1990), .wake 1 0, .act 1 0]

end Busy

open Busy in
open Time.Span (ofMillis) in
/-- There are permits left, and yet the other member calls no sooner than the delay is over. -/
theorem backoff_kept_busy :
    let paused := fleet.turn (.act 0 0)
    let ended := Task.overWorld fleet.now 0 fleet.world limited 0 false
    fleet.members[0]? = some first ∧ first.ready[0]? = some (0, limited) ∧
      limited.Fails first.settings fleet.now 0 fleet.world ended limited tooMany true ∧
      tooMany.kind = .rateLimit ∧ limited.triesAgain first.settings tooMany = true ∧
      paused.world.log =
        [.started 0 0, .started 0 0, .ended ⟨0, [1], 0, ofMillis 30, false⟩,
          .paused 0 (ofMillis 30) (ofMillis 2000) true] ∧
      (paused.run turns).world.log = paused.world.log ++
        [.ended ⟨0, [1], 0, ofMillis 40, false⟩, .started 1 (ofMillis 2030)] ∧
      ∃ later, (paused.run turns).world.log = paused.world.log ++ later ∧
        ∀ i' time, .started i' time ∈ later → ofMillis 30 + ofMillis 2000 ≤ time := by
  have hfails : limited.Fails first.settings fleet.now 0 fleet.world
      (Task.overWorld fleet.now 0 fleet.world limited 0 false) limited tooMany true :=
    .called rfl rfl
  have hspan : limited.delay first.settings tooMany = ofMillis 2000 := by decide +kernel
  obtain ⟨_, later, hlater, hstarts⟩ :=
    backoff_kept (f := fleet) (k := 0) (j := 0) rfl rfl rfl rfl hfails rfl (by decide) turns
  rw [hspan] at hstarts
  exact ⟨rfl, rfl, hfails, rfl, by decide, by decide +kernel, by decide +kernel, later,
    hlater, hstarts⟩

end Fleet

end Precis.Dispatch
