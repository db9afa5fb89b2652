import Mathlib.Algebra.Order.Ring.Nat
import Precis.Proofs.Rate.Doubles
import Precis.Settings.Basic

/-!
# When a call asks again

A call of `acquire` that was sent away acts again after the wait that was computed for it. In
doubles that wait may be no time at all: then the call acts again at the same instant, at which
nothing can have come in, and so on without an end (`acquire_eq_none`). A tier that settings may
name does this: with one call in 49 seconds the second call spins when the 49 seconds are over
(`sparse_spins`).

That is the only way to spin. Each turn of a call leads to the next one (`Ask.Leads`): to the same
instant if the next permit was imminent, and to a later millisecond otherwise. So a call none of
whose turns left a permit imminent has no more turns than its timeout has milliseconds, and two. A
call is stopped just if its deadline, its wait or the end of its wait is out of range
(`Ask.Overflows`). Unless some call spins, all calls can return, but for those that are stopped
(`asks_spaced`). The clock is brought to the earliest timer again and again, and the time that the
calls have left gets less (`Steady.exists_settled`).
-/

namespace Precis

open Decimal Time

/-- A task that changes nothing and acts again at once does so without an end. -/
theorem Time.Schedule.run_eq_none_of_again {σ τ ρ : Type} {act : Schedule.Act σ τ ρ} {P : τ → Prop}
    {index : Nat} (s : Schedule σ τ ρ) (hstopped : s.stopped = none) (rest : List (Nat × τ))
    (hagain : ∀ task, P task → ∃ next, P next ∧
      act s.now index s.world task = (s.world, .again next))
    (fuel : Nat) {task : τ} (htask : P task) :
    Schedule.run act fuel { s with ready := (index, task) :: rest } = none := by
  induction fuel generalizing task with
  | zero => rfl
  | succ fuel ih =>
    -- the task is first in line again, and the schedule is as it was
    obtain ⟨next, hnext, hact⟩ := hagain task htask
    have hgoes : ¬ s.stopped.isSome = true := by rw [hstopped]; exact Bool.false_ne_true
    rw [Schedule.run, Schedule.step]
    dsimp only
    rw [if_neg hgoes, hact]
    exact ih hnext

/-- The caller need not give up yet, and its deadline is an instant. -/
def Caller.HasTime (now : Nat) (caller : Caller) : Prop :=
  ∀ deadline, caller.deadline = some deadline → now ≤ deadline ∧ deadline ≤ Instant.last

theorem Caller.HasTime.isTimed {now : Nat} {caller : Caller} (h : caller.HasTime now) :
    caller.isTimed = true := by
  rw [Caller.isTimed]
  cases hdeadline : caller.deadline with
  | none => rfl
  | some deadline => exact decide_eq_true (h deadline hdeadline).2

/-- A wait of no time at all ends now. -/
theorem Caller.HasTime.answer_zero {now : Nat} {caller : Caller} (h : caller.HasTime now) :
    caller.answer now 0 = .later now := by
  rw [answer, if_neg (Nat.not_lt_zero _)]
  cases hdeadline : caller.deadline with
  | none => rfl
  | some deadline =>
    obtain ⟨hnow, hlast⟩ := h deadline hdeadline
    dsimp only
    rw [if_neg (by omega), if_neg (by omega), Nat.add_zero]

/-- A caller with a deadline that has to wait is stopped when the wait is no span, or does not end
at an instant. -/
theorem Caller.answer_eq_overflowed {deadline now span : Nat} {overflow : Overflow} :
    (⟨some deadline⟩ : Caller).answer now span = .overflowed overflow ↔
      Span.longest < span ∧ overflow = .span ∨
        span ≤ Span.longest ∧ Instant.last < now + span ∧ overflow = .time := by
  unfold answer
  by_cases hlong : Span.longest < span
  · -- the wait is no span
    rw [if_pos hlong]
    simp [hlong, Nat.not_le.2 hlong, eq_comm]
  rw [if_neg hlong]
  dsimp only
  by_cases hend : Instant.last < now + span
  · -- the wait is a span, but it ends at no instant
    rw [if_pos hend]
    simp [hlong, Nat.not_lt.1 hlong, hend, eq_comm]
  · rw [if_neg hend]
    split <;> simp [hlong, hend]

/-- A caller that is to ask again is told when its wait ends. -/
theorem Caller.later_eq {caller : Caller} {now span time : Nat}
    (h : caller.answer now span = .later time) : time = now + span := by
  unfold answer at h
  split at h
  · cases h
  · split at h
    · split at h
      · cases h
      · split at h
        · cases h
        · cases h
          rfl
    · cases h
      rfl

namespace Limiter

/-! ## Turns -/

/-- The turn after this one comes at `time`: at the same instant if the next permit was imminent,
and otherwise later, at a whole millisecond. -/
def Ask.Leads (turn : Ask Float) (time : Nat) : Prop :=
  turn.after.Imminent ∧ time = turn.time ∨
    ¬ turn.after.Imminent ∧ turn.time < time ∧ Instant.tick time = time

/-- The deadline is no instant, or the wait is no span, or it does not end at an instant. -/
def Ask.Overflows (deadline : Nat) (turn : Ask Float) (overflow : Overflow) : Prop :=
  Instant.last < deadline ∧ overflow = .time ∨
    deadline ≤ Instant.last ∧ ∃ span, turn.before.ask turn.time = (.wait span, turn.after) ∧
      (Span.longest < span ∧ overflow = .span ∨
        span ≤ Span.longest ∧ Instant.last < turn.time + span ∧ overflow = .time)

/-- Where a call stands after its last turn. -/
def Stand.After (turn : Ask Float) : Stand → Prop
  | asleep wakes _ => turn.Leads wakes
  | returned time _ => time = turn.time
  | stopped _ => True

/-- The first turn is at the beginning of the call, and each one leads to what comes after it. The
call is stopped just if its last turn overflows. -/
structure Call.Spaced (timeout : Nat) (call : Call Float) : Prop where
  begun_eq : ∀ turn ∈ call.asks.head?, turn.time = call.begun
  turns : call.asks.IsChain fun turn next => turn.Leads next.time
  stand : ∃ turn ∈ call.asks.getLast?, call.stand.After turn ∧
    ∀ overflow, call.stand = .stopped overflow ↔ turn.Overflows (call.begun + timeout) overflow

/-- The call has returned or was stopped. -/
def Stand.isSettled : Stand → Bool
  | asleep _ _ => false
  | returned _ _ => true
  | stopped _ => true

/-- The call acts again at the instant of its last turn. -/
def Call.Spins (call : Call Float) : Prop :=
  ∃ turn ∈ call.asks.getLast?, turn.after.Imminent ∧ ∃ caller, call.stand = .asleep turn.time caller

/-- Turns that lead to later milliseconds take a millisecond each. -/
theorem length_le_of_leads {asks : List (Ask Float)} {first last : Ask Float}
    (hturns : asks.IsChain fun turn next => turn.Leads next.time)
    (hlate : ∀ turn ∈ asks, ¬ turn.after.Imminent) (hfirst : asks.head? = some first)
    (hlast : asks.getLast? = some last) :
    first.time / 1000000 + asks.length ≤ last.time / 1000000 + 1 := by
  induction asks generalizing first with
  | nil => cases hfirst
  | cons turn rest ih =>
    cases hfirst
    cases rest with
    | nil =>
      cases hlast
      exact Nat.le_refl _
    | cons next rest =>
      obtain ⟨hleads, hrest⟩ := List.isChain_cons_cons.1 hturns
      rw [List.getLast?_cons_cons] at hlast
      have hturn := hlate turn List.mem_cons_self
      have hih := ih hrest (fun u hu => hlate u (List.mem_cons_of_mem _ hu)) rfl hlast
      rcases hleads with ⟨himminent, -⟩ | ⟨-, hlater, htick⟩
      · -- a permit was never imminent
        exact absurd himminent hturn
      · -- the next turn is in a later millisecond
        rw [Instant.tick] at htick
        rw [List.length_cons]
        omega

/-- What a call leaves of the limiter. -/
theorem fst_acquireTask (l : Limiter Float) (now index : Nat) (task : Option Caller) :
    (acquireTask now index l task).1 = (l.ask (task.getD (l.caller now)) now).2 := by
  unfold acquireTask
  dsimp only
  generalize l.ask (task.getD (l.caller now)) now = answered
  obtain ⟨answer, l⟩ := answered
  cases answer <;> rfl

namespace Service

variable {s t : Service Float} {label : String} {timeout : Nat}

/-- A call that is sent away is due again at once, or at a later millisecond. -/
theorem after_of_wait {turn : Ask Float} {span : Nat} (h : span = 0 ↔ turn.after.Imminent)
    (caller : Caller) :
    (Stand.ofMove turn.time (if turn.time + span = turn.time then .again (some caller)
      else .sleep (turn.time + span) (some caller))).After turn := by
  by_cases hsame : span = 0
  · rw [if_pos (by omega)]
    -- a wait of no time leaves the next permit imminent
    exact Or.inl ⟨h.1 hsame, rfl⟩
  · rw [if_neg (by omega)]
    have hafter : turn.time < Instant.tick (turn.time + span) :=
      Nat.lt_of_lt_of_le (by omega) (Instant.le_tick _)
    exact Or.inr ⟨fun himminent => hsame (h.2 himminent), hafter, Instant.tick_tick _⟩

/-- A call acts: the bucket stays sound, and the turn leads to where the call stands then. -/
theorem acted_after (h : s.limiter.bucket.Sound) (index : Nat) (caller : Option Caller) :
    (s.acted index caller).1.bucket.Sound ∧
      (s.acted index caller).2.After
        ⟨s.now, s.limiter.bucket, (s.acted index caller).1.bucket⟩ := by
  unfold Service.acted acquireTask
  dsimp only
  rcases s.limiter.ask_cases (caller.getD (s.limiter.caller s.now)) s.now with
    ⟨b, _, hask, hturn⟩ | ⟨span, b, _, hask, hturn⟩ | ⟨_, hturn⟩
  · rw [hturn]
    -- a permit, or nothing before it is time
    exact ⟨(h.ask hask).1, rfl⟩
  · obtain ⟨hsound, hwait⟩ := h.ask hask
    -- the call waits for a permit
    have hlater := @after_of_wait ⟨s.now, s.limiter.bucket, b⟩ span (hwait span rfl)
    rw [hturn]
    cases hanswer : (caller.getD (s.limiter.caller s.now)).answer s.now span with
    | granted => exact absurd hanswer (Caller.answer_ne_granted _ _ _)
    | refused => exact ⟨hsound, rfl⟩
    | later time =>
      rw [Caller.later_eq hanswer]
      exact ⟨hsound, hlater _⟩
    | overflowed overflow => exact ⟨hsound, trivial⟩
  · rw [hturn]
    exact ⟨h, trivial⟩

/-- A call is stopped when its caller is. -/
theorem acted_eq_stopped (s : Service Float) (index : Nat) (caller : Option Caller)
    (overflow : Overflow) :
    (s.acted index caller).2 = .stopped overflow ↔
      (s.limiter.ask (caller.getD (s.limiter.caller s.now)) s.now).1 = .overflowed overflow := by
  unfold Service.acted acquireTask
  dsimp only
  generalize s.limiter.ask (caller.getD (s.limiter.caller s.now)) s.now = answered
  obtain ⟨answer, l⟩ := answered
  cases answer with
  | granted => simp [Stand.ofMove]
  | refused => simp [Stand.ofMove]
  | later time =>
    dsimp only
    split <;> simp [Stand.ofMove]
  | overflowed overflow' => simp [Stand.ofMove]

/-- A call that acts is stopped just if its turn overflows. -/
theorem acted_stopped (s : Service Float) (index : Nat) {caller : Option Caller} {deadline : Nat}
    (hcaller : caller.getD (s.limiter.caller s.now) = ⟨some deadline⟩) (overflow : Overflow) :
    (s.acted index caller).2 = .stopped overflow ↔
      Ask.Overflows deadline ⟨s.now, s.limiter.bucket, (s.acted index caller).1.bucket⟩
        overflow := by
  have hbucket : (s.acted index caller).1 = (s.limiter.ask ⟨some deadline⟩ s.now).2 := by
    rw [← hcaller, Service.acted, fst_acquireTask]
  rw [acted_eq_stopped, hcaller, hbucket, Ask.Overflows]
  dsimp only
  rcases s.limiter.ask_cases ⟨some deadline⟩ s.now with
    ⟨b, htimed, hask, hturn⟩ | ⟨span, b, htimed, hask, hturn⟩ | ⟨htimed, hturn⟩
  · -- there is no wait
    have hdeadline : deadline ≤ Instant.last := of_decide_eq_true htimed
    rw [hturn, hask]
    simp [Nat.not_lt.2 hdeadline]
  · have hdeadline : deadline ≤ Instant.last := of_decide_eq_true htimed
    rw [hturn, hask, Caller.answer_eq_overflowed]
    simp [Nat.not_lt.2 hdeadline, hdeadline]
  · have hdeadline : ¬ deadline ≤ Instant.last := of_decide_eq_false htimed
    rw [hturn]
    simp [hdeadline, Nat.lt_of_not_le hdeadline, eq_comm]

/-- All calls are in time, and all turns lead on. -/
structure Steady (label : String) (timeout : Nat) (s : Service Float) : Prop where
  kept : s.Kept label timeout
  sound : s.limiter.bucket.Sound
  spaced : ∀ call ∈ s.calls, call.Spaced timeout

/-- A call that acts when its last turn leads it to is spaced again. -/
theorem spaced_turned (h : s.limiter.bucket.Sound) {index begun : Nat} {asks : List (Ask Float)}
    {caller : Option Caller}
    (hcaller : caller.getD (s.limiter.caller s.now) = ⟨some (begun + timeout)⟩)
    (hbegun : ∀ turn ∈ asks.head?, turn.time = begun) (hfirst : asks = [] → s.now = begun)
    (hturns : asks.IsChain fun turn next => turn.Leads next.time)
    (hlast : ∀ turn ∈ asks.getLast?, turn.Leads s.now) :
    (s.turned index begun asks caller).Spaced timeout where
  begun_eq := by
    cases asks with
    | nil =>
      rintro turn ⟨⟩
      exact hfirst rfl
    | cons first rest => exact hbegun
  turns := by
    refine List.isChain_append.2 ⟨hturns, List.isChain_singleton _, ?_⟩
    rintro turn hturn next ⟨⟩
    exact hlast turn hturn
  stand :=
    ⟨_, List.getLast?_concat, (acted_after h index caller).2, acted_stopped s index hcaller⟩

theorem Steady.step (h : s.Steady label timeout) (hstep : s.Step t) : t.Steady label timeout := by
  refine ⟨h.kept.step hstep, ?_, ?_⟩
  · cases hstep with
    | pass time hnow htimers => exact h.sound
    -- only what asks for permits or pauses changes the bucket
    | acquire => exact (acted_after h.sound s.calls.length none).1
    | wake index caller hindex hdue => exact (acted_after h.sound index caller).1
    | tryAcquire => exact h.sound.touches (touches_tryAcquire _ _)
    | pauseFor span => exact h.sound.touches (.paused span)
    | view => exact h.sound.touches .viewed
  cases hstep with
  | pass time hnow htimers => exact h.spaced
  | acquire =>
    -- only the call that begins is new, and this is its first turn
    intro call hcall
    rcases List.mem_append.1 hcall with hcall | hcall
    · exact h.spaced call hcall
    · rw [List.mem_singleton.1 hcall]
      exact spaced_turned h.sound h.kept.caller_eq (by simp) (fun _ => rfl) .nil (by simp)
  | wake index caller hindex hdue =>
    intro call hcall
    rcases List.mem_or_eq_of_mem_set hcall with hcall | rfl
    · -- the calls that do not wake are as they were
      exact h.spaced call hcall
    have hspaced := h.spaced s.calls[index] (List.getElem_mem hindex)
    have hbounded := h.kept.bounded s.calls[index] (List.getElem_mem hindex)
    obtain ⟨turn, hturn, hafter, -⟩ := hspaced.stand
    have hstand := hbounded.asleep_of_due hdue
    obtain ⟨-, -, rfl⟩ := hbounded.asleep s.now caller hstand
    refine spaced_turned h.sound rfl hspaced.begun_eq ?_ hspaced.turns ?_
    · intro hnone
      rw [hnone] at hturn
      cases hturn
    · intro turn' hturn'
      cases hturn.symm.trans hturn'
      -- it acts at the time that its last turn led to
      rwa [hstand] at hafter
  | tryAcquire => exact h.spaced
  | pauseFor span => exact h.spaced
  | view => exact h.spaced

theorem Steady.run (h : s.Steady label timeout) (hrun : Run s t) : t.Steady label timeout := by
  induction hrun with
  | refl => exact h
  | tail _ hstep ih => exact ih.step hstep

/-- The limiter of a tier that nobody has called yet. -/
theorem steady_start (tier : TierLimits) (label : String) (start : Nat) :
    (⟨start, .new label tier.bucket start, []⟩ : Service Float).Steady label
      (Span.ofSeconds tier.timeoutSeconds.toNat) where
  kept := ⟨rfl, rfl, fun _ hcall => absurd hcall List.not_mem_nil⟩
  sound := tier.sound_bucket start
  spaced := fun _ hcall => absurd hcall List.not_mem_nil

/-! ## All calls return or are stopped, unless one spins -/

theorem sum_set_lt {l : List Nat} {i x : Nat} (hi : i < l.length) (hx : x < l[i]) :
    (l.set i x).sum < l.sum := by
  induction l generalizing i with
  | nil => cases hi
  | cons y l ih =>
    -- the first of them gets less, and the others stay
    cases i with
    | zero =>
      rw [List.set_cons_zero, List.sum_cons, List.sum_cons]
      exact Nat.add_lt_add_right hx _
    | succ i =>
      rw [List.set_cons_succ, List.sum_cons, List.sum_cons]
      exact Nat.add_lt_add_left (ih (Nat.lt_of_succ_lt_succ hi) hx) _

/-- How long a call can still sleep. -/
def left (timeout : Nat) (call : Call Float) : Nat :=
  match call.stand with
  | .asleep wakes _ => Instant.tick (call.begun + timeout) + 1 - wakes
  | .returned _ _ => 0
  | .stopped _ => 0

/-- Of the timers of the calls that sleep one is the earliest. -/
theorem exists_earliest {call : Call Float} (hcall : call ∈ s.calls)
    (hopen : call.stand.isSettled = false) :
    ∃ index, ∃ hindex : index < s.calls.length, ∃ wakes caller,
      s.calls[index].stand = .asleep wakes caller ∧ ∀ call ∈ s.calls, call.stand.Allows wakes := by
  classical
  have htimer : ∃ wakes, ∃ call ∈ s.calls, ∃ caller, call.stand = .asleep wakes caller := by
    cases hstand : call.stand with
    | asleep wakes caller => exact ⟨wakes, call, hcall, caller, hstand⟩
    | returned time result =>
      rw [hstand] at hopen
      cases hopen
    | stopped overflow =>
      rw [hstand] at hopen
      cases hopen
  obtain ⟨earliest, hmem, caller, hstand⟩ := Nat.find_spec htimer
  obtain ⟨index, hindex, rfl⟩ := List.getElem_of_mem hmem
  refine ⟨index, hindex, Nat.find htimer, caller, hstand, ?_⟩
  intro other hother
  cases hstand' : other.stand with
  | asleep wakes caller => exact Nat.find_min' htimer ⟨other, hother, caller, hstand'⟩
  | returned time result => trivial
  | stopped overflow => trivial

/-- A call acts when its time has come, and then it spins, or there is less time left. -/
theorem Steady.woke (h : s.Steady label timeout) {index : Nat} (hindex : index < s.calls.length)
    {caller : Option Caller} (hstand : s.calls[index].stand = .asleep s.now caller) :
    (∃ call ∈ (s.woke index s.calls[index] caller).calls, call.Spins) ∨
      ((s.woke index s.calls[index] caller).calls.map (left timeout)).sum
        < (s.calls.map (left timeout)).sum := by
  obtain ⟨-, hdeadline, -⟩ :=
    (h.kept.bounded _ (List.getElem_mem hindex)).asleep s.now caller hstand
  have hless : left timeout (s.turned index s.calls[index].begun s.calls[index].asks caller)
        < left timeout s.calls[index] →
      ((s.woke index s.calls[index] caller).calls.map (left timeout)).sum
        < (s.calls.map (left timeout)).sum := by
    intro hcall
    rw [Service.woke, List.map_set]
    refine sum_set_lt (by rwa [List.length_map]) ?_
    rwa [List.getElem_map]
  rw [left, left, hstand, turned] at hless
  dsimp only at hless
  have hafter := (acted_after h.sound index caller).2
  cases hacted : (s.acted index caller).2 with
  | returned time result =>
    -- it is over, and no time is left of it
    rw [hacted] at hless
    exact Or.inr (hless (by dsimp only; omega))
  | stopped overflow =>
    rw [hacted] at hless
    exact Or.inr (hless (by dsimp only; omega))
  | asleep wakes caller' =>
    rw [hacted] at hafter hless
    -- it acts again at once, or it sleeps until later, with less of its time left
    rcases hafter with ⟨himminent, rfl⟩ | ⟨-, hlater, -⟩
    · exact Or.inl ⟨s.turned index s.calls[index].begun s.calls[index].asks caller,
        List.mem_set hindex _, _, List.getLast?_concat, himminent, caller', hacted⟩
    · exact Or.inr (hless (by dsimp only at hlater ⊢; omega))

/-- The clock is brought to the earliest timer, and that call acts. -/
theorem Steady.exists_less (h : s.Steady label timeout) {call : Call Float} (hcall : call ∈ s.calls)
    (hopen : call.stand.isSettled = false) :
    ∃ u, Run s u ∧ u.calls.length = s.calls.length ∧
      ((∃ call ∈ u.calls, call.Spins) ∨
        (u.calls.map (left timeout)).sum < (s.calls.map (left timeout)).sum) := by
  obtain ⟨index, hindex, wakes, caller, hstand, hallows⟩ := exists_earliest hcall hopen
  have hnow := ((h.kept.bounded _ (List.getElem_mem hindex)).asleep wakes caller hstand).1
  have hpass : s.Step { s with now := wakes } := .pass wakes hnow hallows
  have hdue : s.calls[index].stand.due? wakes = some caller := by
    rw [hstand]
    exact if_pos (Nat.le_refl _)
  have hwake := Step.wake (s := { s with now := wakes }) index caller hindex hdue
  exact ⟨_, (Relation.ReflTransGen.single hpass).tail hwake, List.length_set,
    (h.step hpass).woke hindex hstand⟩

theorem Steady.exists_settled (h : s.Steady label timeout) :
    ∃ u, Run s u ∧ u.calls.length = s.calls.length ∧
      ((∀ call ∈ u.calls, call.stand.isSettled = true) ∨ ∃ call ∈ u.calls, call.Spins) := by
  -- by induction on how long all calls together can still sleep
  generalize hn : (s.calls.map (left timeout)).sum = n
  induction n using Nat.strong_induction_on generalizing s with
  | _ n ih =>
    by_cases hall : ∀ call ∈ s.calls, call.stand.isSettled = true
    · exact ⟨s, .refl, rfl, Or.inl hall⟩
    · obtain ⟨call, hcall, hopen⟩ : ∃ call ∈ s.calls, call.stand.isSettled = false := by
        simpa using hall
      obtain ⟨u, hrun, hlength, hspins | hless⟩ := h.exists_less hcall hopen
      · -- some call spins, and nothing more is to be shown
        exact ⟨u, hrun, hlength, Or.inr hspins⟩
      · obtain ⟨v, hrun', hlength', hv⟩ := ih _ (hn ▸ hless) (h.run hrun) rfl
        exact ⟨v, hrun.trans hrun', hlength'.trans hlength, hv⟩

/-- A call that never finds the next permit imminent has no more turns than its timeout has
milliseconds, and two. -/
theorem Steady.length_asks_le (h : s.Steady label timeout) {call : Call Float}
    (hcall : call ∈ s.calls) (hlate : ∀ turn ∈ call.asks, ¬ turn.after.Imminent) :
    call.asks.length ≤ (timeout + 999999) / 1000000 + 2 := by
  have hspaced := h.spaced call hcall
  have hbounded := h.kept.bounded call hcall
  obtain ⟨last, hlast, -⟩ := hspaced.stand
  -- no turn comes after the tick of the deadline, and each one takes a millisecond
  have htime := hbounded.asked last (List.mem_of_getLast? hlast)
  cases hasks : call.asks with
  | nil =>
    rw [hasks] at hlast
    cases hlast
  | cons first rest =>
    have hbegun := hspaced.begun_eq
    have hturns := hspaced.turns
    rw [hasks] at hbegun hturns hlast hlate
    have hlength := length_le_of_leads hturns hlate rfl hlast
    rw [hbegun first rfl] at hlength
    unfold Instant.tick at htime
    omega

/-- Every turn of a call that ends without a permit leads to a later millisecond, unless it leaves
the next permit imminent, and then the call acts again at the same instant. So a call that never
finds a permit imminent has at most so many turns. A call is stopped just if its last turn
overflows; and unless some call spins, all calls can return, but for those that are stopped. -/
theorem asks_spaced (tier : TierLimits) (label : String) (start : Nat)
    (hrun : Run ⟨start, .new label tier.bucket start, []⟩ s) :
    (∀ call ∈ s.calls, call.Spaced (Span.ofSeconds tier.timeoutSeconds.toNat) ∧
      ((∀ turn ∈ call.asks, ¬ turn.after.Imminent) →
        call.asks.length ≤ 1000 * tier.timeoutSeconds.toNat + 2)) ∧
    ∃ u, Run s u ∧ u.calls.length = s.calls.length ∧
      ((∀ call ∈ u.calls, call.stand.isSettled = true) ∨ ∃ call ∈ u.calls, call.Spins) := by
  have h := (steady_start tier label start).run hrun
  refine ⟨?_, h.exists_settled⟩
  intro call hcall
  refine ⟨h.spaced call hcall, ?_⟩
  intro hlate
  have hlength := h.length_asks_le hcall hlate
  unfold Span.ofSeconds at hlength
  omega

/-- One call in two seconds, and a minute of patience. -/
def slow : TierLimits := ⟨1, 2, 60⟩

/-- The second of two calls sleeps for two seconds, and then it has its permit. -/
theorem asks_spaced_slow : ∃ s : Service Float,
    Run ⟨0, .new "api" slow.bucket 0, []⟩ s ∧
      s.calls.map (fun call => (call.asks.map (·.time), call.stand.end?)) =
        [([0], some (0, true)), ([0, 2000000000], some (2000000000, true))] ∧
      (∀ call ∈ s.calls, call.Spaced 60000000000 ∧
        ((∀ turn ∈ call.asks, ¬ turn.after.Imminent) → call.asks.length ≤ 60002)) ∧
      ∃ u, Run s u ∧ u.calls.length = s.calls.length ∧
        ((∀ call ∈ u.calls, call.stand.isSettled = true) ∨ ∃ call ∈ u.calls, call.Spins) := by
  have hrun : ∃ s : Service Float, Run ⟨0, .new "api" slow.bucket 0, []⟩ s ∧
      s.calls.map (fun call => (call.asks.map (·.time), call.stand.end?)) =
        [([0], some (0, true)), ([0, 2000000000], some (2000000000, true))] := by
    have run := Relation.ReflTransGen.refl (r := Step)
        (a := (⟨0, .new "api" slow.bucket 0, []⟩ : Service Float))
      |>.tail .acquire |>.tail .acquire
      |>.tail (.pass 2000000000 (by decide) (by decide +kernel))
      |>.tail (.wake 1 (some ⟨some 60000000000⟩) (by decide) (by decide +kernel))
    exact ⟨_, run, by decide +kernel⟩
  obtain ⟨s, hrun, hasks⟩ := hrun
  obtain ⟨hcalls, hsettled⟩ := asks_spaced slow "api" 0 hrun
  exact ⟨s, hrun, hasks, hcalls, hsettled⟩

end Service

/-! ## A call that spins -/

theorem hasTime_caller {l : Limiter Float} {now : Nat} (htimed : (l.caller now).isTimed = true) :
    (l.caller now).HasTime now := by
  intro deadline hdeadline
  rw [Caller.isTimed, hdeadline] at htimed
  obtain ⟨timeout, -, rfl⟩ := Option.map_eq_some_iff.1 hdeadline
  exact ⟨Nat.le_add_right now timeout, of_decide_eq_true htimed⟩

/-- Who finds the next permit imminent, when time does not go on, acts again and leaves all as it
was. -/
theorem acquireTask_of_imminent {l : Limiter Float} {now index : Nat} {task : Option Caller}
    (hsound : l.bucket.Sound) (himminent : l.bucket.Imminent) (hmark : now ≤ l.bucket.mark)
    (htask : (task.getD (l.caller now)).HasTime now) :
    acquireTask now index l task = (l, .again (some (task.getD (l.caller now)))) := by
  unfold acquireTask Limiter.ask
  dsimp only
  rw [if_pos htask.isTimed, hsound.ask_of_imminent himminent hmark]
  dsimp only
  rw [htask.answer_zero]
  simp

/-- A call of `acquire` that finds the next permit imminent never returns. -/
theorem acquire_eq_none {l : Limiter Float} {now : Nat} (hsound : l.bucket.Sound)
    (himminent : l.bucket.Imminent) (hmark : now ≤ l.bucket.mark)
    (htimed : (l.caller now).isTimed = true) (fuel : Nat) : l.acquire fuel now = none := by
  have hbegin : ((none : Option Caller).getD (l.caller now)).HasTime now := hasTime_caller htimed
  have hmany : l.acquireMany fuel 1 now = none := by
    refine congrArg (Option.map _) (Schedule.run_eq_none_of_again
      (P := fun task => (task.getD (l.caller now)).HasTime now)
      (Schedule.start now l 1 [none]) rfl [] ?_ fuel hbegin)
    intro task htask
    exact ⟨some (task.getD (l.caller now)), htask,
      acquireTask_of_imminent hsound himminent hmark htask⟩
  rw [acquire, hmany]
  rfl

/-- A call that acts again at once found the next permit imminent. -/
theorem Stand.After.imminent {turn : Ask Float} {stand : Stand} {caller : Option Caller}
    (h : stand.After turn) (hdue : stand.due? turn.time = some caller) : turn.after.Imminent := by
  obtain ⟨wakes, hwakes, rfl⟩ := Stand.exists_of_due hdue
  rcases h with ⟨himminent, -⟩ | ⟨-, hlater, -⟩
  · -- it can act at the time of its turn only if it is due then
    exact himminent
  · exact absurd hwakes (Nat.not_le_of_lt hlater)

namespace Service

variable {s : Service Float} {label : String} {timeout : Nat}

/-- When a call acts again at once, no call that begins at that instant ever returns. -/
theorem Steady.acquire_eq_none (h : s.Steady label timeout) (index : Nat) (call : Call Float)
    (caller next : Option Caller) (hagain : (s.acted index caller).2.due? s.now = some next)
    (hmark : s.now ≤ (s.acted index caller).1.bucket.mark)
    (htimed : ((s.acted index caller).1.caller s.now).isTimed = true) (fuel : Nat) :
    (s.woke index call caller).limiter.acquire fuel (s.woke index call caller).now = none := by
  obtain ⟨hsound, hafter⟩ := acted_after h.sound index caller
  exact Limiter.acquire_eq_none hsound (hafter.imminent hagain) hmark htimed fuel

/-- Settings that let one call through in 49 seconds. -/
def sparse : Settings := { rates := { ultraSafe := ⟨1, 49, 60⟩ } }

/-- The settings are accepted, and the second of two calls spins: after the 49 seconds that it was
told to wait it finds no permit, and acts again at that instant. So does every call that begins
then, and none of them ever returns. -/
theorem sparse_spins : sparse.check = .ok () ∧ ∃ s : Service Float,
    Run ⟨0, .new "example.org" (sparse.rates.limitsOf .ultraSafe).bucket 0, []⟩ s ∧
      s.now = 49000000000 ∧
      s.calls.map (fun call => (call.asks.map (·.time), call.stand.due? s.now)) =
        [([0], none), ([0, 49000000000], some (some ⟨some 60000000000⟩))] ∧
      ∀ fuel, s.limiter.acquire fuel s.now = none := by
  refine ⟨by decide +kernel, ?_⟩
  -- the first call has the only permit, and the second one sleeps until 49 seconds are over
  have slept := Relation.ReflTransGen.refl (r := Step)
      (a := (⟨0, .new "example.org" (sparse.rates.limitsOf .ultraSafe).bucket 0, []⟩
        : Service Float))
    |>.tail .acquire |>.tail .acquire
    |>.tail (.pass 49000000000 (by decide) (by decide +kernel))
  have h := (steady_start (sparse.rates.limitsOf .ultraSafe) "example.org" 0).run slept
  have woken := slept |>.tail (.wake 1 (some ⟨some 60000000000⟩) (by decide) (by decide +kernel))
  exact ⟨_, woken, rfl, by decide +kernel,
    h.acquire_eq_none 1 _ _ (some ⟨some 60000000000⟩) (by decide +kernel) (by decide +kernel)
      (by decide +kernel)⟩

end Service

end Limiter

end Precis
