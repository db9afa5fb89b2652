import Precis.Rate.Limiter

/-!
# Many users of one limiter

Tasks turn to one limiter in any order, at any times that do not go back. A call of `acquire` asks,
and sleeps and asks again until it has a permit or gives up; other tasks try for a permit without
waiting, pause the limiter, or look at it. `Traffic.Step` is one such visit, and `Traffic.Run` is a
history of them.

A caller that sleeps may ask again at any time from its waking on. So a run says nothing of how
promptly tasks act, and what holds of every run holds under every clock and every order of the
tasks.

All that later modules need of a visit is what it does to the bucket (`Traffic.Step.touches`).
-/

namespace Precis

variable {α : Type} [Quantity α]

namespace Limiter

/-- What a user of a limiter does there, with what it is told. -/
inductive Deed where
  /-- A caller of `acquire` asks. -/
  | asked (answer : Answer)
  | tried (granted : Bool)
  | paused (span : Nat)
  | viewed
  deriving DecidableEq, Repr

/-- Whether a user who wanted a permit got one. -/
def Deed.permit? : Deed → Option Bool
  | .asked answer => some (answer = .granted)
  | .tried granted => some granted
  | .paused _ => none
  | .viewed => none

/-- A turn to the limiter. -/
structure Visit where
  time : Nat
  deed : Deed
  deriving DecidableEq, Repr

/-- A permit is granted. -/
def Visit.grants (visit : Visit) : Bool := visit.deed.permit? = some true

/-- A limiter that is in use. -/
structure Traffic (α : Type) where
  now : Nat
  limiter : Limiter α
  /-- The callers that sleep, each with the time at which it wakes. -/
  asleep : List (Nat × Caller) := []

namespace Traffic

/-- A limiter that nobody has used yet. -/
def opened (label : String) (config : BucketConfig α) (now : Nat) : Traffic α :=
  { now, limiter := Limiter.new label config now }

/-- The callers that sleep after this one, awake beside the others, was answered. -/
def sleepers (caller : Caller) (others : List (Nat × Caller)) : Answer → List (Nat × Caller)
  | .later time => others ++ [(time, caller)]
  | _ => others

/-- A caller asked, while the others sleep. -/
def asked (s : Traffic α) (time : Nat) (caller : Caller) (others : List (Nat × Caller)) :
    Traffic α :=
  let answered := s.limiter.ask caller time
  { now := time, limiter := answered.2, asleep := sleepers caller others answered.1 }

/-- The bucket was used without a caller. -/
def used (s : Traffic α) (time : Nat) (bucket : Bucket α) : Traffic α :=
  { s with now := time, limiter := { s.limiter with bucket } }

/-- One visit. -/
inductive Step (s : Traffic α) : Visit → Traffic α → Prop
  /-- A call of `acquire` begins. -/
  | acquire (time : Nat) (hnow : s.now ≤ time) :
      Step s ⟨time, .asked (s.limiter.ask (s.limiter.caller time) time).1⟩
        (s.asked time (s.limiter.caller time) s.asleep)
  /-- A caller has slept and asks again. -/
  | wake (time k wakes : Nat) (caller : Caller) (hnow : s.now ≤ time)
      (hasleep : s.asleep[k]? = some (wakes, caller)) (hwakes : wakes ≤ time) :
      Step s ⟨time, .asked (s.limiter.ask caller time).1⟩
        (s.asked time caller (s.asleep.eraseIdx k))
  | tryAcquire (time : Nat) (hnow : s.now ≤ time) :
      Step s ⟨time, .tried (s.limiter.bucket.tryAcquire time).1⟩
        (s.used time (s.limiter.bucket.tryAcquire time).2)
  | pauseFor (time span : Nat) (hnow : s.now ≤ time) :
      Step s ⟨time, .paused span⟩ (s.used time (s.limiter.bucket.pauseFor span time))
  | view (time : Nat) (hnow : s.now ≤ time) :
      Step s ⟨time, .viewed⟩ (s.used time (s.limiter.bucket.view time).2)

/-- Any number of visits, first to last. -/
inductive Run (s : Traffic α) : List Visit → Traffic α → Prop
  | nil : Run s [] s
  | snoc {history : List Visit} {visit : Visit} {t u : Traffic α} (hrun : Run s history t)
      (hstep : t.Step visit u) : Run s (history ++ [visit]) u

end Traffic

end Limiter

/-! ## The bucket behind the limiter -/

open Limiter

/-- A look at a bucket with a limit refills it. -/
theorem Bucket.view_snd (b : Bucket α) (now : Nat) :
    (b.view now).2 = if Quantity.less Quantity.zero b.config.rate then b.refilled now else b := by
  unfold view
  by_cases hrate : Quantity.less Quantity.zero b.config.rate = true
  · -- with a limit the bucket is refilled, whatever it then says of the wait
    simp only [hrate, if_true]
    split <;> rfl
  · simp only [hrate, if_false, Bool.false_eq_true]

/-- What a visit can do to the bucket: all who want a permit ask the bucket in the same way. -/
inductive Bucket.Touches (b : Bucket α) (now : Nat) : Deed → Bucket α → Prop
  | granted {deed : Deed} {b' : Bucket α} (hdeed : deed.permit? = some true)
      (hask : b.ask now = (.permit, b')) : Touches b now deed b'
  | denied {deed : Deed} {b' : Bucket α} {span : Nat} (hdeed : deed.permit? = some false)
      (hask : b.ask now = (.wait span, b')) : Touches b now deed b'
  | paused (span : Nat) : Touches b now (.paused span) (b.pauseFor span now)
  | viewed : Touches b now .viewed (b.view now).2
  /-- A caller whose deadline is no instant does not get as far as the bucket. -/
  | untimed : Touches b now (.asked (.overflowed .time)) b

/-- A caller that has to wait has no permit. -/
theorem Caller.answer_ne_granted (caller : Caller) (now span : Nat) :
    caller.answer now span ≠ .granted := by
  rw [answer]
  split
  · simp
  · split
    · split
      · simp
      · split <;> simp
    · simp

namespace Limiter

/-- The limiter grants what its bucket gives. -/
theorem ask_cases (l : Limiter α) (caller : Caller) (now : Nat) :
    (∃ b, caller.isTimed = true ∧ l.bucket.ask now = (.permit, b) ∧
      l.ask caller now = (.granted, { l with bucket := b })) ∨
    (∃ span b, caller.isTimed = true ∧ l.bucket.ask now = (.wait span, b) ∧
      l.ask caller now = (caller.answer now span, { l with bucket := b })) ∨
    caller.isTimed = false ∧ l.ask caller now = (.overflowed .time, l) := by
  rw [ask]
  -- the deadline is checked first, and only then the bucket is asked
  cases htimed : caller.isTimed with
  | false => exact Or.inr (Or.inr ⟨rfl, rfl⟩)
  | true =>
    cases hask : l.bucket.ask now with
    | mk grant b =>
      cases grant with
      | permit => exact Or.inl ⟨b, rfl, rfl, rfl⟩
      | wait span => exact Or.inr (Or.inl ⟨span, b, rfl, rfl, rfl⟩)

theorem touches_ask (l : Limiter α) (caller : Caller) (now : Nat) :
    l.bucket.Touches now (.asked (l.ask caller now).1) (l.ask caller now).2.bucket := by
  rcases ask_cases l caller now with
    ⟨b, _, hbucket, hask⟩ | ⟨span, b, _, hbucket, hask⟩ | ⟨_, hask⟩
  · rw [hask]
    -- the bucket had a permit to give
    exact .granted rfl hbucket
  · rw [hask]
    -- every answer to a caller that has to wait is a denial
    exact .denied (congrArg some (decide_eq_false (caller.answer_ne_granted now span))) hbucket
  · rw [hask]
    exact .untimed

theorem touches_tryAcquire (b : Bucket α) (now : Nat) :
    b.Touches now (.tried (b.tryAcquire now).1) (b.tryAcquire now).2 := by
  rw [Bucket.tryAcquire]
  cases hask : b.ask now with
  | mk grant b' =>
    cases grant with
    | permit => exact .granted rfl hask
    | wait span => exact .denied rfl hask

/-- A visit comes no earlier than the last one, and does this to the bucket. -/
theorem Traffic.Step.touches {s t : Traffic α} {visit : Visit} (h : s.Step visit t) :
    s.now ≤ visit.time ∧ t.now = visit.time ∧
      s.limiter.bucket.Touches visit.time visit.deed t.limiter.bucket := by
  cases h with
  -- acquiring, waking and trying ask the bucket; pausing and viewing do not
  | acquire time hnow => exact ⟨hnow, rfl, touches_ask _ _ _⟩
  | wake time k wakes caller hnow _ _ => exact ⟨hnow, rfl, touches_ask _ _ _⟩
  | tryAcquire time hnow => exact ⟨hnow, rfl, touches_tryAcquire _ _⟩
  | pauseFor time span hnow => exact ⟨hnow, rfl, .paused span⟩
  | view time hnow => exact ⟨hnow, rfl, .viewed⟩

end Limiter

end Precis
