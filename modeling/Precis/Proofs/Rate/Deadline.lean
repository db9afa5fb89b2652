import Mathlib.Logic.Relation
import Precis.Proofs.Rate.Exact
import Precis.Proofs.Rate.Traffic

/-!
# Waiting for a permit has an end

A call of `acquire` with a timeout never sleeps past the first whole millisecond at or after its
deadline, however often others take the permit that it waits for or pause the limiter
(`Service.returns_in_time`). So whenever it returns, it has returned by then; and one that returns
without a permit took none. Nor did one that was stopped because a time or a span was out of range.

`Service.Step` is the limiter under the clock: each call of `acquire` acts as `acquireTask` does,
any call that is awake may act next, and anybody may try for a permit, pause the limiter or look at
it at any time between. The clock may stop anywhere, but it does not pass the time at which a
sleeping call wakes.

The invariant is `Call.Bounded`: a call asks again only when its next turn is at or before its
deadline, so its timer is at most the tick of the deadline, and the clock is at most at its timer.
-/

namespace Precis

open Time

theorem Time.Instant.tick_mono {s t : Nat} (h : s ≤ t) : Instant.tick s ≤ Instant.tick t := by
  unfold Instant.tick
  exact Nat.mul_le_mul_right _ (Nat.div_le_div_right (Nat.add_le_add_right h _))

variable {α : Type} [Quantity α]

/-! ## What asking does to a bucket -/

namespace Bucket

/-- No permit was taken out: the bucket is as it was, or as the time since its mark left it. -/
def Untaken (now : Nat) (before after : Bucket α) : Prop :=
  after = before ∨ after = { before with blocked := none }.refilled now

theorem config_refilled (b : Bucket α) (now : Nat) : (b.refilled now).config = b.config := by
  unfold refilled
  dsimp only
  split
  · rfl
  · rfl

theorem Untaken.config {now : Nat} {before after : Bucket α} (h : Untaken now before after) :
    after.config = before.config := by
  rcases h with rfl | rfl
  · rfl
  · exact config_refilled _ now

/-- A bucket either gives a permit, or it sends the caller away and nothing is taken. -/
theorem ask_untaken (b : Bucket α) (now : Nat) :
    (∃ after, b.ask now = (.permit, after) ∧ after.config = b.config) ∨
      ∃ span after, b.ask now = (.wait span, after) ∧ Untaken now b after := by
  rw [ask]
  -- a pause, the refill and what is taken all leave the settings alone
  cases b.pauseLeft now with
  | some left => exact Or.inr ⟨left, b, rfl, Or.inl rfl⟩
  | none =>
    dsimp only
    unfold take
    split
    · exact Or.inl ⟨_, rfl, rfl⟩
    · dsimp only
      split
      · exact Or.inl ⟨_, rfl, config_refilled _ now⟩
      · exact Or.inr ⟨_, _, rfl, Or.inr rfl⟩

/-- Whatever a visit does, the rate, the burst and the timeout stay. -/
theorem Touches.config {b b' : Bucket α} {now : Nat} {deed : Limiter.Deed}
    (h : b.Touches now deed b') : b'.config = b.config := by
  have hasked : ∀ {grant}, b.ask now = (grant, b') → b'.config = b.config := by
    intro grant hask
    rcases ask_untaken b now with ⟨after, hpermit, hconfig⟩ | ⟨span, after, hwait, huntaken⟩
    · cases hask.symm.trans hpermit
      exact hconfig
    · cases hask.symm.trans hwait
      exact huntaken.config
  cases h with
  | granted _ hask => exact hasked hask
  | denied _ hask => exact hasked hask
  | paused span => rfl
  | viewed =>
    rw [view_snd]
    split
    · exact config_refilled b now
    · rfl
  | untimed => rfl

end Bucket

namespace Limiter

/-- A caller that has to wait gives up, asks again at a time that is not past its deadline, or is
stopped. -/
theorem answer_deadline (deadline now span : Nat) :
    (⟨some deadline⟩ : Caller).answer now span = .refused ∨
      (∃ time, (⟨some deadline⟩ : Caller).answer now span = .later time ∧
        now ≤ time ∧ time ≤ deadline) ∨
      ∃ overflow, (⟨some deadline⟩ : Caller).answer now span = .overflowed overflow := by
  unfold Caller.answer
  by_cases hlong : Span.longest < span
  · rw [if_pos hlong]
    exact Or.inr (Or.inr ⟨_, rfl⟩)
  rw [if_neg hlong]
  dsimp only
  by_cases hend : Instant.last < now + span
  · rw [if_pos hend]
    exact Or.inr (Or.inr ⟨_, rfl⟩)
  rw [if_neg hend]
  by_cases hlate : deadline < now + span
  · rw [if_pos hlate]
    exact Or.inl rfl
  · rw [if_neg hlate]
    exact Or.inr (Or.inl ⟨now + span, rfl, Nat.le_add_right now span, Nat.le_of_not_lt hlate⟩)

/-- How a caller with a deadline fares: it has a permit, or it took none, and gives up, asks again
at a time that is not past its deadline, or is stopped. -/
theorem ask_deadline (l : Limiter α) (deadline now : Nat) :
    (∃ b, l.ask ⟨some deadline⟩ now = (.granted, { l with bucket := b }) ∧
      b.config = l.bucket.config) ∨
    ∃ b, Bucket.Untaken now l.bucket b ∧
      (l.ask ⟨some deadline⟩ now = (.refused, { l with bucket := b }) ∨
        (∃ time, l.ask ⟨some deadline⟩ now = (.later time, { l with bucket := b }) ∧
          now ≤ time ∧ time ≤ deadline) ∨
        ∃ overflow,
          l.ask ⟨some deadline⟩ now = (.overflowed overflow, { l with bucket := b })) := by
  rcases l.ask_cases ⟨some deadline⟩ now with
    ⟨b, _, hpermit, hask⟩ | ⟨span, b, _, hwait, hask⟩ | ⟨_, hask⟩
  · have hconfig := (touches_ask l ⟨some deadline⟩ now).config
    rw [hask] at hconfig
    exact Or.inl ⟨b, hask, hconfig⟩
  · have huntaken : Bucket.Untaken now l.bucket b := by
      -- it was not given anything, so it may only have been refilled
      rcases l.bucket.ask_untaken now with ⟨after, hpermit, _⟩ | ⟨_, after, hwait', huntaken⟩
      · cases hwait.symm.trans hpermit
      · cases hwait.symm.trans hwait'
        exact huntaken
    refine Or.inr ⟨b, huntaken, ?_⟩
    rw [hask]
    rcases answer_deadline deadline now span with
      hanswer | ⟨time, hanswer, hnow, htime⟩ | ⟨overflow, hanswer⟩
    · exact Or.inl (by rw [hanswer])
    · exact Or.inr (Or.inl ⟨time, by rw [hanswer], hnow, htime⟩)
    · exact Or.inr (Or.inr ⟨overflow, by rw [hanswer]⟩)
  · -- it did not get as far as the bucket
    exact Or.inr ⟨l.bucket, Or.inl rfl, Or.inr (Or.inr ⟨.time, hask⟩)⟩

/-! ## Calls under the clock -/

/-- Where a call of `acquire` stands. -/
inductive Stand where
  /-- It acts again, as `caller`, when the clock stands at `wakes`. -/
  | asleep (wakes : Nat) (caller : Option Caller)
  | returned (time : Nat) (result : Except Problem Unit)
  | stopped (overflow : Overflow)

namespace Stand

/-- Where a call stands after it acted. -/
def ofMove (now : Nat) : Move (Option Caller) (Nat × Except Problem Unit) → Stand
  | .sleep deadline caller => asleep (Instant.tick deadline) caller
  | .again caller => asleep now caller
  | .done (time, result) => returned time result
  | .stop overflow _ => stopped overflow

/-- The clock does not pass the timer of a call that sleeps. -/
def Allows (time : Nat) : Stand → Prop
  | asleep wakes _ => time ≤ wakes
  | returned _ _ => True
  | stopped _ => True

instance (time : Nat) : DecidablePred (Allows time)
  | asleep wakes _ => inferInstanceAs (Decidable (time ≤ wakes))
  | returned _ _ => inferInstanceAs (Decidable True)
  | stopped _ => inferInstanceAs (Decidable True)

/-- The caller that acts next, when its time has come. -/
def due? (now : Nat) : Stand → Option (Option Caller)
  | asleep wakes caller => if wakes ≤ now then some caller else none
  | returned _ _ => none
  | stopped _ => none

/-- When the call returned, and whether with a permit. -/
def end? : Stand → Option (Nat × Bool)
  | asleep _ _ => none
  | returned time result => some (time, result.isOk)
  | stopped _ => none

theorem exists_of_due {stand : Stand} {now : Nat} {caller : Option Caller}
    (h : stand.due? now = some caller) : ∃ wakes ≤ now, stand = .asleep wakes caller := by
  cases stand with
  | returned time result => cases h
  | stopped overflow => cases h
  | asleep wakes asleep =>
    obtain ⟨hwakes, hcaller⟩ := Option.ite_none_right_eq_some.1 h
    exact ⟨wakes, hwakes, congrArg _ (Option.some.inj hcaller)⟩

end Stand

/-- A turn of a call: the bucket before and after it asked. -/
structure Ask (α : Type) where
  time : Nat
  before : Bucket α
  after : Bucket α

/-- A call of `acquire`, with all its turns. -/
structure Call (α : Type) where
  begun : Nat
  asks : List (Ask α)
  stand : Stand

/-- A limiter under the clock, with all calls of `acquire` in the order in which they began. -/
structure Service (α : Type) where
  now : Nat
  limiter : Limiter α
  calls : List (Call α) := []

namespace Service

/-- The limiter after a call acted, and where the call stands then. -/
def acted (s : Service α) (index : Nat) (caller : Option Caller) : Limiter α × Stand :=
  let (limiter, move) := acquireTask s.now index s.limiter caller
  (limiter, .ofMove s.now move)

/-- The call after it acted, with its new turn. -/
def turned (s : Service α) (index begun : Nat) (asks : List (Ask α)) (caller : Option Caller) :
    Call α :=
  let acted := s.acted index caller
  { begun, asks := asks ++ [⟨s.now, s.limiter.bucket, acted.1.bucket⟩], stand := acted.2 }

/-- A call of `acquire` begins. -/
def began (s : Service α) : Service α :=
  { s with
    limiter := (s.acted s.calls.length none).1
    calls := s.calls ++ [s.turned s.calls.length s.now [] none] }

/-- A call acts that has slept. -/
def woke (s : Service α) (index : Nat) (call : Call α) (caller : Option Caller) : Service α :=
  { s with
    limiter := (s.acted index caller).1
    calls := s.calls.set index (s.turned index call.begun call.asks caller) }

/-- The bucket was used without a call of `acquire`. -/
def used (s : Service α) (bucket : Bucket α) : Service α :=
  { s with limiter := { s.limiter with bucket } }

/-- What can happen next. -/
inductive Step (s : Service α) : Service α → Prop
  | pass (time : Nat) (hnow : s.now ≤ time) (htimers : ∀ call ∈ s.calls, call.stand.Allows time) :
      Step s { s with now := time }
  | acquire : Step s s.began
  | wake (index : Nat) (caller : Option Caller) (hindex : index < s.calls.length)
      (hdue : s.calls[index].stand.due? s.now = some caller) :
        Step s (s.woke index s.calls[index] caller)
  | tryAcquire : Step s (s.used (s.limiter.bucket.tryAcquire s.now).2)
  | pauseFor (span : Nat) : Step s (s.used (s.limiter.bucket.pauseFor span s.now))
  | view : Step s (s.used (s.limiter.bucket.view s.now).2)

/-- Any number of steps. -/
abbrev Run : Service α → Service α → Prop := Relation.ReflTransGen Step

end Service

/-! ## No call waits past its deadline -/

/-- What holds of a call at every moment. -/
structure Call.Bounded (label : String) (timeout now : Nat) (call : Call α) : Prop where
  begun_le : call.begun ≤ now
  /-- It wakes at the tick of its deadline or before, and the clock has not passed its timer. -/
  asleep : ∀ wakes caller, call.stand = .asleep wakes caller →
    now ≤ wakes ∧ wakes ≤ Instant.tick (call.begun + timeout) ∧
      caller = some ⟨some (call.begun + timeout)⟩
  returned : ∀ time result, call.stand = .returned time result →
    call.begun ≤ time ∧ time ≤ Instant.tick (call.begun + timeout) ∧
      (result = .ok () ∨ result = .error (.noPermit label timeout))
  asked : ∀ ask ∈ call.asks, ask.time ≤ Instant.tick (call.begun + timeout)
  /-- Unless it has its permit it took none. -/
  untaken : (∀ time, call.stand ≠ .returned time (.ok ())) →
    ∀ ask ∈ call.asks, ask.before.Untaken ask.time ask.after

/-- A call wakes when the clock stands at its timer, neither before nor after. -/
theorem Call.Bounded.asleep_of_due {label : String} {timeout now : Nat} {call : Call α}
    (h : call.Bounded label timeout now) {caller : Option Caller}
    (hdue : call.stand.due? now = some caller) : call.stand = .asleep now caller := by
  obtain ⟨wakes, hwakes, hstand⟩ := Stand.exists_of_due hdue
  rw [hstand, Nat.le_antisymm hwakes (h.asleep wakes caller hstand).1]

namespace Service

/-- The limiter has its label and its timeout, and no call waits too long. -/
structure Kept (label : String) (timeout : Nat) (s : Service α) : Prop where
  label_eq : s.limiter.label = label
  timeout_eq : s.limiter.bucket.config.timeout = some timeout
  bounded : ∀ call ∈ s.calls, call.Bounded label timeout s.now

variable {s t : Service α} {label : String} {timeout : Nat}

/-- What becomes of a call that acts: it returns at once, or it sleeps, and not past the tick of its
deadline, or it is stopped. Unless it returns with a permit, none was taken. -/
theorem Kept.acted (h : s.Kept label timeout) (index : Nat) {caller : Option Caller}
    {deadline : Nat} (hcaller : caller.getD (s.limiter.caller s.now) = ⟨some deadline⟩) :
    ∃ b stand, s.acted index caller = ({ s.limiter with bucket := b }, stand) ∧
      b.config = s.limiter.bucket.config ∧
      (stand = .returned s.now (.ok ()) ∨
        Bucket.Untaken s.now s.limiter.bucket b ∧
          (stand = .returned s.now (.error (.noPermit label timeout)) ∨
            (∃ wakes, stand = .asleep wakes (some ⟨some deadline⟩) ∧
              s.now ≤ wakes ∧ wakes ≤ Instant.tick deadline) ∨
            ∃ overflow, stand = .stopped overflow)) := by
  unfold Service.acted acquireTask
  dsimp only
  rw [hcaller]
  rcases s.limiter.ask_deadline deadline s.now with
    ⟨b, hask, hconfig⟩ | ⟨b, huntaken, hask | ⟨time, hask, hnow, htime⟩ | ⟨overflow, hask⟩⟩
  · rw [hask]
    exact ⟨b, _, rfl, hconfig, Or.inl rfl⟩
  · rw [hask]
    refine ⟨b, _, rfl, huntaken.config, Or.inr ⟨huntaken, Or.inl ?_⟩⟩
    dsimp only [Stand.ofMove]
    rw [noPermit, huntaken.config, h.label_eq, h.timeout_eq]
    rfl
  · rw [hask]
    refine ⟨b, _, rfl, huntaken.config, Or.inr ⟨huntaken, Or.inr (Or.inl ?_)⟩⟩
    dsimp only
    by_cases hsame : time = s.now
    · -- the next turn is due at once
      rw [if_pos hsame]
      exact ⟨s.now, rfl, Nat.le_refl _,
        Nat.le_trans (hsame ▸ htime) (Instant.le_tick deadline)⟩
    · rw [if_neg hsame]
      exact ⟨Instant.tick time, rfl, Nat.le_trans hnow (Instant.le_tick time),
        Instant.tick_mono htime⟩
  · rw [hask]
    exact ⟨b, _, rfl, huntaken.config, Or.inr ⟨huntaken, Or.inr (Or.inr ⟨overflow, rfl⟩)⟩⟩

/-- A call that acts in time is in time again. -/
theorem Kept.turned (h : s.Kept label timeout) {index begun : Nat} {asks : List (Ask α)}
    {caller : Option Caller} (hbegun : begun ≤ s.now)
    (hnow : s.now ≤ Instant.tick (begun + timeout))
    (hcaller : caller.getD (s.limiter.caller s.now) = ⟨some (begun + timeout)⟩)
    (htimes : ∀ ask ∈ asks, ask.time ≤ Instant.tick (begun + timeout))
    (hasks : ∀ ask ∈ asks, ask.before.Untaken ask.time ask.after) :
    (s.turned index begun asks caller).Bounded label timeout s.now := by
  obtain ⟨b, stand, hacted, -, hstand⟩ := h.acted index hcaller
  unfold Service.turned
  dsimp only
  rw [hacted]
  have htimes' : ∀ ask ∈ asks ++ [(⟨s.now, s.limiter.bucket, b⟩ : Ask α)],
      ask.time ≤ Instant.tick (begun + timeout) := by
    intro ask hask
    rcases List.mem_append.1 hask with hask | hask
    · -- an earlier question, or this one
      exact htimes ask hask
    · rw [List.mem_singleton.1 hask]
      exact hnow
  rcases hstand with rfl | ⟨huntaken, hstand⟩
  · -- it has its permit
    refine ⟨hbegun, ?_, ?_, htimes', ?_⟩
    · rintro wakes caller ⟨⟩
    · rintro time result ⟨⟩
      exact ⟨hbegun, hnow, Or.inl rfl⟩
    · intro hnone
      exact absurd rfl (hnone s.now)
  have hall : ∀ ask ∈ asks ++ [(⟨s.now, s.limiter.bucket, b⟩ : Ask α)],
      ask.before.Untaken ask.time ask.after := by
    intro ask hask
    -- it asked before, or asks now without getting anything
    rcases List.mem_append.1 hask with hask | hask
    · exact hasks ask hask
    · rw [List.mem_singleton.1 hask]
      exact huntaken
  rcases hstand with rfl | ⟨wakes, rfl, hfrom, huntil⟩ | ⟨overflow, rfl⟩
  · -- it gives up
    refine ⟨hbegun, ?_, ?_, htimes', fun _ => hall⟩
    · rintro wakes caller ⟨⟩
    · rintro time result ⟨⟩
      exact ⟨hbegun, hnow, Or.inr rfl⟩
  · -- it sleeps
    refine ⟨hbegun, ?_, ?_, htimes', fun _ => hall⟩
    · rintro wakes caller ⟨⟩
      exact ⟨hfrom, huntil, rfl⟩
    · rintro time result ⟨⟩
  · -- it is stopped
    refine ⟨hbegun, ?_, ?_, htimes', fun _ => hall⟩
    · rintro wakes caller ⟨⟩
    · rintro time result ⟨⟩

/-- What others do to the bucket concerns no call. -/
theorem Kept.used (h : s.Kept label timeout) {deed : Deed} {b : Bucket α}
    (htouches : s.limiter.bucket.Touches s.now deed b) : (s.used b).Kept label timeout where
  label_eq := h.label_eq
  timeout_eq := (congrArg BucketConfig.timeout htouches.config).trans h.timeout_eq
  bounded := h.bounded

/-- A call acted, and all calls are in time. -/
theorem Kept.served (h : s.Kept label timeout) (index : Nat) {caller : Option Caller}
    {deadline : Nat} (hcaller : caller.getD (s.limiter.caller s.now) = ⟨some deadline⟩)
    {calls : List (Call α)}
    (hcalls : ∀ call ∈ calls, call.Bounded label timeout s.now) :
    ({ s with limiter := (s.acted index caller).1, calls } : Service α).Kept label timeout := by
  obtain ⟨b, stand, hacted, hconfig, -⟩ := h.acted index hcaller
  rw [hacted]
  exact ⟨h.label_eq, (congrArg BucketConfig.timeout hconfig).trans h.timeout_eq, hcalls⟩

/-- A call that begins has the timeout before it. -/
theorem Kept.caller_eq (h : s.Kept label timeout) :
    (none : Option Caller).getD (s.limiter.caller s.now) = ⟨some (s.now + timeout)⟩ := by
  rw [Option.getD_none, Limiter.caller, h.timeout_eq]
  rfl

theorem Kept.step (h : s.Kept label timeout) (hstep : s.Step t) : t.Kept label timeout := by
  cases hstep with
  | pass time hnow htimers =>
    refine ⟨h.label_eq, h.timeout_eq, ?_⟩
    intro call hcall
    have hbounded := h.bounded call hcall
    refine ⟨Nat.le_trans hbounded.begun_le hnow, ?_, hbounded.returned, hbounded.asked,
      hbounded.untaken⟩
    -- the clock is still at the timer of a call that sleeps, or before
    intro wakes caller hstand
    have hallowed := htimers call hcall
    rw [hstand] at hallowed
    exact ⟨hallowed, (hbounded.asleep wakes caller hstand).2⟩
  | acquire =>
    have hnow : s.now ≤ Instant.tick (s.now + timeout) :=
      Nat.le_trans (Nat.le_add_right _ _) (Instant.le_tick _)
    refine h.served s.calls.length h.caller_eq ?_
    intro call hcall
    -- a call that was there, or the one that begins
    rcases List.mem_append.1 hcall with hcall | hcall
    · exact h.bounded call hcall
    · rw [List.mem_singleton.1 hcall]
      exact h.turned (Nat.le_refl _) hnow h.caller_eq (by simp) (by simp)
  | wake index caller hindex hdue =>
    have hbounded := h.bounded s.calls[index] (List.getElem_mem hindex)
    have hstand := hbounded.asleep_of_due hdue
    obtain ⟨-, hnow, rfl⟩ := hbounded.asleep s.now caller hstand
    have hasks := hbounded.untaken (by rw [hstand]; rintro time ⟨⟩)
    refine h.served index rfl ?_
    intro call hcall
    -- another call, or the one that wakes
    rcases List.mem_or_eq_of_mem_set hcall with hcall | rfl
    · exact h.bounded call hcall
    · exact h.turned hbounded.begun_le hnow rfl hbounded.asked hasks
  | tryAcquire => exact h.used (touches_tryAcquire _ _)
  | pauseFor span => exact h.used (.paused span)
  | view => exact h.used .viewed

/-- Every call of a limiter with a timeout sleeps and returns within the first whole millisecond at
or after its deadline, whatever other calls and other users of the limiter do, and takes no permit
unless it returns with one. -/
theorem returns_in_time (l : Limiter α) (start : Nat)
    (htimeout : l.bucket.config.timeout = some timeout) (hrun : Run ⟨start, l, []⟩ s) :
    ∀ call ∈ s.calls, call.Bounded l.label timeout s.now := by
  have hkept : s.Kept l.label timeout := by
    induction hrun with
    | refl => exact ⟨rfl, htimeout, fun call hcall => absurd hcall List.not_mem_nil⟩
    | tail _ hstep ih => exact ih.step hstep
  exact hkept.bounded

open Time.Span (ofMillis)

/-- One permit at a time, two a second, and a second of patience. -/
def brisk : Limiter Rat := .new "api" { rate := 2, burst := 1, timeout := some (ofMillis 1000) } 0

/-- Of two calls that wait, the later one takes the permit. Then the limiter is paused for longer
than the other call can wait: it returns without a permit at its deadline. -/
theorem returns_in_time_contended : ∃ s : Service Rat,
    brisk.bucket.config.timeout = some (ofMillis 1000) ∧ Run ⟨0, brisk, []⟩ s ∧
      s.calls.map (·.stand.end?) =
        [some (0, true), some (ofMillis 1000, false), some (ofMillis 500, true)] ∧
      ∀ call ∈ s.calls, call.Bounded "api" (ofMillis 1000) s.now := by
  have htimeout : brisk.bucket.config.timeout = some (ofMillis 1000) := rfl
  have hrun : ∃ s : Service Rat, Run ⟨0, brisk, []⟩ s ∧
      s.calls.map (·.stand.end?) =
        [some (0, true), some (ofMillis 1000, false), some (ofMillis 500, true)] := by
    have first := Relation.ReflTransGen.refl (r := Step) (a := (⟨0, brisk, []⟩ : Service Rat))
      |>.tail .acquire |>.tail .acquire |>.tail .acquire
      |>.tail (.pass (ofMillis 100) (by decide) (by decide +kernel))
      |>.tail (.pauseFor (ofMillis 300))
    have second := first
      |>.tail (.pass (ofMillis 500) (by decide) (by decide +kernel))
      |>.tail (.wake 2 (some ⟨some (ofMillis 1000)⟩) (by decide) (by decide +kernel))
      |>.tail (.wake 1 (some ⟨some (ofMillis 1000)⟩) (by decide) (by decide +kernel))
    have third := second
      |>.tail (.pass (ofMillis 600) (by decide) (by decide +kernel))
      |>.tail (.pauseFor (ofMillis 2000))
      |>.tail (.pass (ofMillis 1000) (by decide) (by decide +kernel))
      |>.tail (.wake 1 (some ⟨some (ofMillis 1000)⟩) (by decide) (by decide +kernel))
    exact ⟨_, third, by decide +kernel⟩
  obtain ⟨s, hrun, hends⟩ := hrun
  exact ⟨s, htimeout, hrun, hends, returns_in_time brisk 0 htimeout hrun⟩

end Service

end Limiter

end Precis
