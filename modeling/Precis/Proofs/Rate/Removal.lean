import Precis.Proofs.Rate.Standing

/-!
# Calls without a permit leave no trace

A look at a limiter, a vain try for a permit, and a call of `acquire` that gives up can be left out,
any number of them: every other call returns the same at the same time
(`Timeline.returned_without`). Quantities are exact here; rounded ones would show where the time
since the last refill was cut in two.

What such calls change is when the bucket was refilled, and whether a pause that is over is still
noted. Neither shows in the bucket as it stands at a time (`Bucket.asOf`). So a run and the run
without those calls go side by side, with buckets that stand alike (`Timeline.Without`).
-/

namespace Precis

/-! ## Calls on a timeline -/

open Time

namespace Limiter

/-- What a caller wants of a limiter. -/
inductive Request where
  | acquire
  | tryAcquire
  | pauseFor (span : Nat)
  | view
  deriving DecidableEq, Repr

/-- What a caller is told. -/
inductive Reply (α : Type) where
  | acquired (result : Except Problem Unit)
  | tried (granted : Bool)
  | paused
  | viewed (view : BucketView α)
  /-- A time or a span was out of range. -/
  | stopped (overflow : Overflow)

/-- The caller looked, or wanted a permit and got none. -/
def Reply.isVain {α : Type} : Reply α → Bool
  | acquired result => !result.isOk
  | tried granted => !granted
  | paused => false
  | viewed _ => true
  | stopped _ => true

/-- A call that returned, or was stopped. -/
structure Returned (α : Type) where
  call : Nat
  time : Nat
  reply : Reply α

/-- What happens at a limiter. Calls are known by their numbers. -/
inductive Event where
  /-- The clock goes on. -/
  | pass (time : Nat)
  /-- A call begins. -/
  | call (number : Nat) (request : Request)
  /-- A call that slept acts again. -/
  | wake (number : Nat)

/-- The call that acts. -/
def Event.number? : Event → Option Nat
  | pass _ => none
  | call number _ => some number
  | wake number => some number

/-- An event of the clock, or of a call that stays. -/
def Event.stays (gone : Nat → Bool) (e : Event) : Bool := e.number?.all (!gone ·)

/-- A limiter under the clock, with what each call returned. -/
structure Timeline (α : Type) where
  now : Nat
  limiter : Limiter α
  /-- The calls of `acquire` that sleep. -/
  asleep : List (Sleeper (Option Caller)) := []
  /-- First to last. -/
  returned : List (Returned α) := []

namespace Timeline

section Events

variable {α : Type} [Quantity α]

/-- A limiter that nobody has called yet. -/
def opened (label : String) (config : BucketConfig α) (now : Nat) : Timeline α :=
  { now, limiter := Limiter.new label config now }

/-- A call of `acquire` sleeps, returns or is stopped. -/
def stood (s : Timeline α) (number : Nat) : Stand → Timeline α
  | .asleep wakes caller => { s with asleep := s.asleep ++ [⟨wakes, number, caller⟩] }
  | .returned time result => { s with returned := s.returned ++ [⟨number, time, .acquired result⟩] }
  | .stopped overflow => { s with returned := s.returned ++ [⟨number, s.now, .stopped overflow⟩] }

/-- A call of `acquire` acts. -/
def acted (s : Timeline α) (number : Nat) (caller : Option Caller) : Timeline α :=
  let (limiter, move) := acquireTask s.now number s.limiter caller
  { s with limiter }.stood number (.ofMove s.now move)

/-- A call returns at once. -/
def used (s : Timeline α) (number : Nat) (bucket : Bucket α) (reply : Reply α) : Timeline α :=
  { s with
    limiter := { s.limiter with bucket }
    returned := s.returned ++ [⟨number, s.now, reply⟩] }

/-- A call begins. -/
def called (s : Timeline α) (number : Nat) : Request → Timeline α
  | .acquire => s.acted number none
  | .tryAcquire =>
    let (granted, bucket) := s.limiter.bucket.tryAcquire s.now
    s.used number bucket (.tried granted)
  | .pauseFor span => s.used number (s.limiter.bucket.pauseFor span s.now) .paused
  | .view =>
    let (view, bucket) := s.limiter.bucket.view s.now
    s.used number bucket (.viewed view)

/-- The call sleeps, and its time has come. -/
def isDue (now number : Nat) (x : Sleeper (Option Caller)) : Bool :=
  x.index = number && x.wakes ≤ now

/-- The timeline after an event, unless it cannot happen: the clock neither goes back nor passes the
timer of a call that sleeps, and only a call that is due wakes. -/
def after? (s : Timeline α) : Event → Option (Timeline α)
  | .pass time =>
    if s.now ≤ time ∧ ∀ x ∈ s.asleep, time ≤ x.wakes then some { s with now := time } else none
  | .call number request => some (s.called number request)
  | .wake number =>
    (s.asleep.find? (isDue s.now number)).map fun x =>
      { s with asleep := s.asleep.eraseP (isDue s.now number) }.acted number x.task

/-- The timeline after all of these events. -/
def run? (s : Timeline α) (events : List Event) : Option (Timeline α) := events.foldlM after? s

theorem run?_cons (s : Timeline α) (e : Event) (events : List Event) :
    s.run? (e :: events) = (s.after? e).bind fun t => t.run? events := rfl

end Events

end Timeline

/-! ## Limiters that stand alike -/

/-- The limiters bear one label, and their buckets stand alike. -/
structure Alike (now : Nat) (l l' : Limiter Rat) : Prop where
  label_eq : l.label = l'.label
  asOf_eq : l.bucket.asOf now = l'.bucket.asOf now

variable {now time : Nat} {l l' : Limiter Rat}

theorem Alike.config_eq (h : Alike now l l') : l.bucket.config = l'.bucket.config :=
  Bucket.config_of_asOf_eq h.asOf_eq

theorem Alike.symm (h : Alike now l l') : Alike now l' l := ⟨h.label_eq.symm, h.asOf_eq.symm⟩

theorem Alike.trans {l'' : Limiter Rat} (h : Alike now l l') (h' : Alike now l' l'') :
    Alike now l l'' :=
  ⟨h.label_eq.trans h'.label_eq, h.asOf_eq.trans h'.asOf_eq⟩

theorem Alike.later (h : Alike now l l') (htime : now ≤ time) : Alike time l l' where
  label_eq := h.label_eq
  asOf_eq := by rw [← Bucket.asOf_asOf _ htime, h.asOf_eq, Bucket.asOf_asOf _ htime]

/-- A call of `acquire` acts in the same way at limiters that stand alike. -/
theorem Alike.acts (h : Alike now l l') (number : Nat) (task : Option Caller) :
    (acquireTask now number l task).2 = (acquireTask now number l' task).2 ∧
      Alike now (acquireTask now number l task).1 (acquireTask now number l' task).1 := by
  -- the deadline comes from the configuration, the answer from the bucket as it stands
  have hcaller : l.caller now = l'.caller now := by rw [caller, h.config_eq, caller]
  obtain ⟨hgrant, hafter⟩ := Bucket.ask_of_asOf_eq h.asOf_eq
  unfold acquireTask ask
  dsimp only
  rw [hcaller]
  cases (task.getD (l'.caller now)).isTimed with
  -- a caller without an end of its time does not reach the bucket
  | false => exact ⟨rfl, h⟩
  | true =>
    generalize l.bucket.ask now = asked at *
    generalize l'.bucket.ask now = asked' at *
    obtain ⟨grant, b⟩ := asked
    obtain ⟨_, b'⟩ := asked'
    dsimp only at hgrant hafter ⊢
    subst hgrant
    have halike : Alike now { l with bucket := b } { l' with bucket := b' } := ⟨h.label_eq, hafter⟩
    rw [if_pos rfl, if_pos rfl]
    cases grant with
    | permit => exact ⟨rfl, halike⟩
    | wait span =>
      dsimp only
      cases (task.getD (l'.caller now)).answer now span with
      | granted => exact ⟨rfl, halike⟩
      | refused =>
        -- the refusal names the label and the timeout
        refine ⟨?_, halike⟩
        dsimp only
        rw [noPermit, noPermit]
        dsimp only
        rw [h.label_eq, halike.config_eq]
      | later time => exact ⟨rfl, halike⟩
      | overflowed overflow => exact ⟨rfl, halike⟩

/-- A call of `acquire` that gets no permit leaves the limiter as it stands. -/
theorem alike_of_not_granted {number : Nat} {task : Option Caller}
    (h : (acquireTask now number l task).2 ≠ .done (now, .ok ())) :
    Alike now l (acquireTask now number l task).1 := by
  unfold acquireTask at h ⊢
  dsimp only at h ⊢
  rcases l.ask_cases (task.getD (l.caller now)) now with
    ⟨b, _, _, hask⟩ | ⟨span, b, _, hwait, hask⟩ | ⟨_, hask⟩
  · rw [hask] at h
    exact absurd rfl h
  · -- only its own mark and block may have moved, not how it stands
    have halike : Alike now l { l with bucket := b } := ⟨rfl, (Bucket.asOf_of_wait hwait).symm⟩
    rw [hask]
    cases (task.getD (l.caller now)).answer now span with
    | granted => exact halike
    | refused => exact halike
    | later time => exact halike
    | overflowed overflow => exact halike
  · rw [hask]
    exact ⟨rfl, rfl⟩

/-! ## Leaving calls out -/

namespace Timeline

/-- `t` is `s` without the calls that are gone: it stands alike, and the other calls are the
same. -/
structure Without (gone : Nat → Bool) (s t : Timeline Rat) : Prop where
  now_eq : t.now = s.now
  alike : Alike s.now s.limiter t.limiter
  asleep_eq : t.asleep = s.asleep.filter (!gone ·.index)
  returned_eq : t.returned = s.returned.filter (!gone ·.call)

variable {gone : Nat → Bool} {s s' t : Timeline Rat} {number : Nat}

theorem without_opened (gone : Nat → Bool) (label : String) (config : BucketConfig Rat)
    (start : Nat) : Without gone (opened label config start) (opened label config start) :=
  ⟨rfl, ⟨rfl, rfl⟩, rfl, rfl⟩

/-! ### A call that stays -/

theorem Without.stood (h : Without gone s t) (hstays : gone number = false) (stand : Stand) :
    Without gone (s.stood number stand) (t.stood number stand) := by
  cases stand with
  | asleep wakes caller =>
    refine ⟨h.now_eq, h.alike, ?_, h.returned_eq⟩
    simp [Timeline.stood, h.asleep_eq, List.filter_append, hstays]
  | returned time result =>
    refine ⟨h.now_eq, h.alike, h.asleep_eq, ?_⟩
    simp [Timeline.stood, h.returned_eq, List.filter_append, hstays]
  | stopped overflow =>
    refine ⟨h.now_eq, h.alike, h.asleep_eq, ?_⟩
    simp [Timeline.stood, h.returned_eq, h.now_eq, List.filter_append, hstays]

theorem Without.acted (h : Without gone s t) (hstays : gone number = false)
    (caller : Option Caller) : Without gone (s.acted number caller) (t.acted number caller) := by
  obtain ⟨hmove, halike⟩ := h.alike.acts number caller
  unfold Timeline.acted
  dsimp only
  rw [h.now_eq, ← hmove]
  have hasked : Without gone { s with limiter := (acquireTask s.now number s.limiter caller).1 }
      { now := s.now, limiter := (acquireTask s.now number t.limiter caller).1,
        asleep := t.asleep, returned := t.returned } :=
    ⟨rfl, halike, h.asleep_eq, h.returned_eq⟩
  exact hasked.stood hstays _

theorem Without.used (h : Without gone s t) (hstays : gone number = false) {b b' : Bucket Rat}
    (hb : b.asOf s.now = b'.asOf s.now) (reply : Reply Rat) :
    Without gone (s.used number b reply) (t.used number b' reply) := by
  refine ⟨h.now_eq, ⟨h.alike.label_eq, hb⟩, h.asleep_eq, ?_⟩
  simp [Timeline.used, h.returned_eq, h.now_eq, List.filter_append, hstays]

theorem Without.called (h : Without gone s t) (hstays : gone number = false) (request : Request) :
    Without gone (s.called number request) (t.called number request) := by
  have hstands := h.alike.asOf_eq
  cases request with
  | acquire => exact h.acted hstays none
  | tryAcquire =>
    obtain ⟨hgrant, hafter⟩ := Bucket.ask_of_asOf_eq hstands
    unfold Timeline.called Bucket.tryAcquire
    dsimp only
    rw [h.now_eq, ← hgrant]
    exact h.used hstays hafter _
  | pauseFor span =>
    unfold Timeline.called
    dsimp only
    rw [h.now_eq]
    refine h.used hstays ?_ _
    rw [← Bucket.pauseFor_asOf, hstands, Bucket.pauseFor_asOf]
  | view =>
    obtain ⟨hview, hafter⟩ := Bucket.view_asOf s.limiter.bucket s.now
    obtain ⟨hview', hafter'⟩ := Bucket.view_asOf t.limiter.bucket s.now
    unfold Timeline.called
    dsimp only
    rw [h.now_eq, ← hview, ← hview', hstands]
    exact h.used hstays (hafter.trans (hstands.trans hafter'.symm)) _

/-! ### A call that is left out -/

theorem Without.stood_gone (h : Without gone s t) (hgone : gone number = true) (stand : Stand) :
    Without gone (s.stood number stand) t := by
  cases stand with
  | asleep wakes caller =>
    refine ⟨h.now_eq, h.alike, ?_, h.returned_eq⟩
    simp [Timeline.stood, h.asleep_eq, List.filter_append, hgone]
  | returned time result =>
    refine ⟨h.now_eq, h.alike, h.asleep_eq, ?_⟩
    simp [Timeline.stood, h.returned_eq, List.filter_append, hgone]
  | stopped overflow =>
    refine ⟨h.now_eq, h.alike, h.asleep_eq, ?_⟩
    simp [Timeline.stood, h.returned_eq, List.filter_append, hgone]

theorem Without.used_gone (h : Without gone s t) (hgone : gone number = true) {b : Bucket Rat}
    (hb : b.asOf s.now = s.limiter.bucket.asOf s.now) (reply : Reply Rat) :
    Without gone (s.used number b reply) t := by
  refine ⟨h.now_eq, ⟨h.alike.label_eq, hb.trans h.alike.asOf_eq⟩, h.asleep_eq, ?_⟩
  simp [Timeline.used, h.returned_eq, List.filter_append, hgone]

/-- Calls that are left out looked, or got no permit. -/
def Vain (gone : Nat → Bool) (s : Timeline Rat) : Prop :=
  ∀ r ∈ s.returned, gone r.call = true → r.reply.isVain = true

theorem Vain.of_subset (h : Vain gone s') (hreturned : s.returned ⊆ s'.returned) : Vain gone s :=
  fun r hr => h r (hreturned hr)

theorem Without.acted_gone (h : Without gone s t) (hgone : gone number = true)
    {caller : Option Caller} (hvain : Vain gone (s.acted number caller)) :
    Without gone (s.acted number caller) t := by
  -- a permit would show in what the call returned
  have hrefused : (acquireTask s.now number s.limiter caller).2 ≠ .done (s.now, .ok ()) := by
    intro hgranted
    have hreturned : ⟨number, s.now, .acquired (.ok ())⟩ ∈ (s.acted number caller).returned := by
      simp [Timeline.acted, hgranted, Stand.ofMove, Timeline.stood]
    exact absurd (hvain _ hreturned hgone) (by simp [Reply.isVain, Except.isOk, Except.toBool])
  have hasked :
      Without gone { s with limiter := (acquireTask s.now number s.limiter caller).1 } t :=
    ⟨h.now_eq, (alike_of_not_granted hrefused).symm.trans h.alike, h.asleep_eq, h.returned_eq⟩
  exact hasked.stood_gone hgone _

theorem Without.called_gone (h : Without gone s t) (hgone : gone number = true) {request : Request}
    (hvain : Vain gone (s.called number request)) : Without gone (s.called number request) t := by
  cases request with
  | acquire => exact h.acted_gone hgone hvain
  | tryAcquire =>
    have htried : (s.limiter.bucket.tryAcquire s.now).1 = false := by
      have := hvain ⟨number, s.now, .tried (s.limiter.bucket.tryAcquire s.now).1⟩
        (List.mem_append_right _ (List.mem_singleton.2 rfl)) hgone
      simpa [Reply.isVain] using this
    exact h.used_gone hgone (Bucket.asOf_of_denied htried) _
  | pauseFor span =>
    -- a pause is not in vain
    have := hvain ⟨number, s.now, .paused⟩
      (List.mem_append_right _ (List.mem_singleton.2 rfl)) hgone
    cases this
  | view => exact h.used_gone hgone (Bucket.view_asOf s.limiter.bucket s.now).2 _

/-! ### Event by event -/

theorem returned_subset_stood (s : Timeline Rat) (number : Nat) (stand : Stand) :
    s.returned ⊆ (s.stood number stand).returned := by
  cases stand with
  | asleep wakes caller => exact List.Subset.refl _
  | returned time result => exact List.subset_append_left _ _
  | stopped overflow => exact List.subset_append_left _ _

/-- What returned stays returned. -/
theorem returned_subset_after? {e : Event} (hafter : s.after? e = some s') :
    s.returned ⊆ s'.returned := by
  cases e with
  | pass time =>
    -- time passes, and nobody returns
    simp only [after?] at hafter
    split at hafter
    · cases hafter
      exact List.Subset.refl _
    · cases hafter
  | call number request =>
    cases hafter
    cases request with
    | acquire =>
      exact returned_subset_stood
        { s with limiter := (acquireTask s.now number s.limiter none).1 } _ _
    | tryAcquire => exact List.subset_append_left _ _
    | pauseFor span => exact List.subset_append_left _ _
    | view => exact List.subset_append_left _ _
  | wake number =>
    obtain ⟨x, -, rfl⟩ := Option.map_eq_some_iff.1 hafter
    exact returned_subset_stood { s with
      asleep := s.asleep.eraseP (isDue s.now number)
      limiter := (acquireTask s.now number s.limiter x.task).1 } _ _

theorem returned_subset_run? {events : List Event} (hrun : s.run? events = some s') :
    s.returned ⊆ s'.returned := by
  induction events generalizing s with
  | nil =>
    cases hrun
    exact List.Subset.refl _
  | cons e events ih =>
    rw [run?_cons] at hrun
    obtain ⟨u, hafter, hrest⟩ := Option.bind_eq_some_iff.1 hrun
    exact List.Subset.trans (returned_subset_after? hafter) (ih hrest)

theorem index_of_isDue {now : Nat} {x : Sleeper (Option Caller)} (h : isDue now number x = true) :
    x.index = number := by
  simp only [isDue, Bool.and_eq_true, decide_eq_true_eq] at h
  exact h.1

/-- Of a call that stays, the sleeper that is due stays. -/
theorem isDue_and_stays {now : Nat} (hstays : gone number = false) (x : Sleeper (Option Caller)) :
    (isDue now number x && !gone x.index) = isDue now number x := by
  by_cases hdue : isDue now number x = true
  · simp [hdue, index_of_isDue hdue, hstays]
  · simp [hdue]

theorem find?_due_of_stays (asleep : List (Sleeper (Option Caller))) (now : Nat)
    (hstays : gone number = false) :
    (asleep.filter (!gone ·.index)).find? (isDue now number) = asleep.find? (isDue now number) := by
  simp only [List.find?_filter, and_comm (a := (!gone _) = true), ← Bool.and_eq_true,
    isDue_and_stays hstays, Bool.decide_eq_true]

theorem eraseP_due_of_stays (asleep : List (Sleeper (Option Caller))) (now : Nat)
    (hstays : gone number = false) :
    (asleep.filter (!gone ·.index)).eraseP (isDue now number)
      = (asleep.eraseP (isDue now number)).filter (!gone ·.index) := by
  simp only [List.eraseP_filter, isDue_and_stays hstays]

theorem filter_eraseP_due_of_gone (asleep : List (Sleeper (Option Caller))) (now : Nat)
    (hgone : gone number = true) :
    (asleep.eraseP (isDue now number)).filter (!gone ·.index) = asleep.filter (!gone ·.index) := by
  induction asleep with
  | nil => rfl
  | cons x asleep ih =>
    -- its place in the list belongs to a call that is left out
    by_cases hdue : isDue now number x = true
    · have hout : (!gone x.index) = false := by simp [index_of_isDue hdue, hgone]
      rw [List.eraseP_cons_of_pos hdue, List.filter_cons, hout]
      rfl
    · rw [List.eraseP_cons_of_neg hdue, List.filter_cons, List.filter_cons, ih]

theorem Without.after_of_stays (h : Without gone s t) {e : Event} (hstays : e.stays gone = true)
    (hafter : s.after? e = some s') : ∃ t', t.after? e = some t' ∧ Without gone s' t' := by
  cases e with
  | pass time =>
    simp only [after?] at hafter
    split at hafter
    · rename_i hpass
      cases hafter
      -- fewer sleep, so the clock may go on as before
      have hpass' : t.now ≤ time ∧ ∀ x ∈ t.asleep, time ≤ x.wakes := by
        rw [h.now_eq, h.asleep_eq]
        exact ⟨hpass.1, fun x hx => hpass.2 x (List.mem_filter.1 hx).1⟩
      exact ⟨{ t with now := time }, if_pos hpass',
        rfl, h.alike.later hpass.1, h.asleep_eq, h.returned_eq⟩
    · cases hafter
  | call number request =>
    -- a call that stays is made in both histories
    cases hafter
    exact ⟨_, rfl, h.called (by simpa [Event.stays, Event.number?] using hstays) request⟩
  | wake number =>
    have hstays : gone number = false := by simpa [Event.stays, Event.number?] using hstays
    obtain ⟨x, hx, rfl⟩ := Option.map_eq_some_iff.1 hafter
    -- the same sleeper is found on both sides
    have hx' : t.asleep.find? (isDue t.now number) = some x := by
      rw [h.now_eq, h.asleep_eq, find?_due_of_stays _ _ hstays, hx]
    have hwoken : Without gone { s with asleep := s.asleep.eraseP (isDue s.now number) }
        { t with asleep := t.asleep.eraseP (isDue t.now number) } := by
      refine ⟨h.now_eq, h.alike, ?_, h.returned_eq⟩
      dsimp only
      rw [h.now_eq, h.asleep_eq, eraseP_due_of_stays _ _ hstays]
    exact ⟨_, Option.map_eq_some_iff.2 ⟨x, hx', rfl⟩, hwoken.acted hstays x.task⟩

theorem Without.after_of_gone (h : Without gone s t) {e : Event} (hgone : e.stays gone = false)
    (hvain : Vain gone s') (hafter : s.after? e = some s') : Without gone s' t := by
  cases e with
  | pass time => cases hgone
  | call number request =>
    -- a call that is left out is made in one, and changes nothing
    cases hafter
    exact h.called_gone (by simpa [Event.stays, Event.number?] using hgone) hvain
  | wake number =>
    have hgone : gone number = true := by simpa [Event.stays, Event.number?] using hgone
    obtain ⟨x, -, rfl⟩ := Option.map_eq_some_iff.1 hafter
    -- it does not sleep on the other side, so there is nobody to wake
    have hwoken : Without gone { s with asleep := s.asleep.eraseP (isDue s.now number) } t := by
      refine ⟨h.now_eq, h.alike, ?_, h.returned_eq⟩
      rw [h.asleep_eq, filter_eraseP_due_of_gone _ _ hgone]
    exact hwoken.acted_gone hgone hvain

theorem Without.run (h : Without gone s t) {events : List Event} (hvain : Vain gone s')
    (hrun : s.run? events = some s') :
    ∃ t', t.run? (events.filter (Event.stays gone)) = some t' ∧ Without gone s' t' := by
  induction events generalizing s t with
  | nil =>
    cases hrun
    exact ⟨t, rfl, h⟩
  | cons e events ih =>
    rw [run?_cons] at hrun
    obtain ⟨u, hafter, hrest⟩ := Option.bind_eq_some_iff.1 hrun
    -- events of calls that stay happen in both, the others in one
    by_cases hstays : e.stays gone = true
    · obtain ⟨v, hafter', h'⟩ := h.after_of_stays hstays hafter
      rw [List.filter_cons_of_pos hstays, run?_cons, hafter']
      exact ih h' hrest
    · -- what it returned is still there at the end, so it is known to be in vain
      have hvain' := hvain.of_subset (returned_subset_run? hrest)
      rw [List.filter_cons_of_neg hstays]
      exact ih (h.after_of_gone (Bool.eq_false_iff.2 hstays) hvain' hafter) hrest

/-- Calls that looked, or that got no permit, leave no trace: without any number of them the other
events can happen as before, and each of the other calls returns the same at the same time. -/
theorem returned_without {label : String} {config : BucketConfig Rat} {start : Nat}
    {events : List Event} {gone : Nat → Bool} {s : Timeline Rat}
    (hrun : (opened label config start).run? events = some s)
    (hvain : ∀ r ∈ s.returned, gone r.call = true → r.reply.isVain = true) :
    ∃ t, (opened label config start).run? (events.filter (Event.stays gone)) = some t ∧
      t.now = s.now ∧
      t.returned = s.returned.filter (!gone ·.call) ∧
      t.asleep = s.asleep.filter (!gone ·.index) := by
  obtain ⟨t, hrun', h⟩ := (without_opened gone label config start).run hvain hrun
  exact ⟨t, hrun', h.now_eq, h.returned_eq, h.asleep_eq⟩

/-- Two permits a second, one at a time, and a second of patience. -/
def narrow : BucketConfig Rat := { rate := 2, burst := 1, timeout := some 1000000000 }

/-- A second with many calls: 1, 2 and 6 try or look in vain, and 5 waits for a permit that it never
gets. -/
def busy : List Event :=
  [.call 0 .tryAcquire, .call 1 .tryAcquire, .call 2 .view, .call 3 .acquire,
   .pass 100000000, .call 4 (.pauseFor 300000000), .call 5 .acquire,
   .pass 400000000, .wake 5,
   .pass 500000000, .wake 3, .wake 5, .call 6 .tryAcquire,
   .pass 1000000000, .call 7 .acquire, .wake 5]

/-- Call, time, and whether it was in vain. -/
def summary (s : Timeline Rat) : List (Nat × Nat × Bool) :=
  s.returned.map fun r => (r.call, r.time, r.reply.isVain)

/-- The calls 0, 3, 4 and 7 do not notice the others. -/
theorem returned_without_busy :
    ∃ s t : Timeline Rat,
      (opened "busy" narrow 0).run? busy = some s ∧
      s.summary =
        [(0, 0, false), (1, 0, true), (2, 0, true), (4, 100000000, false), (3, 500000000, false),
         (6, 500000000, true), (7, 1000000000, false), (5, 1000000000, true)] ∧
      (∀ r ∈ s.returned, [1, 2, 5, 6].contains r.call = true → r.reply.isVain = true) ∧
      (opened "busy" narrow 0).run? (busy.filter (Event.stays [1, 2, 5, 6].contains)) = some t ∧
      t.returned = s.returned.filter (fun r => !List.contains [1, 2, 5, 6] r.call) := by
  have hrun : ((opened "busy" narrow 0).run? busy).map summary = some
      [(0, 0, false), (1, 0, true), (2, 0, true), (4, 100000000, false), (3, 500000000, false),
       (6, 500000000, true), (7, 1000000000, false), (5, 1000000000, true)] := by
    decide +kernel
  obtain ⟨s, hs, hsummary⟩ := Option.map_eq_some_iff.1 hrun
  have hvain : ∀ r ∈ s.returned, [1, 2, 5, 6].contains r.call = true → r.reply.isVain = true := by
    have hall : ∀ y ∈ s.summary, [1, 2, 5, 6].contains y.1 = true → y.2.2 = true := by
      rw [hsummary]
      decide
    exact List.forall_mem_map.1 hall
  obtain ⟨t, ht, -, hwithout, -⟩ := returned_without hs hvain
  exact ⟨s, t, hs, hsummary, hvain, ht, hwithout⟩

end Timeline

end Limiter

end Precis
