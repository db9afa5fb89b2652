import Precis.Proofs.Dispatch.Fleet

/-!
# Who pauses the limiter

A limiter is paused by an attempt that ends with too many calls and is followed by another one
(`Task.Pauses`). There are two ways to come to that: the provider was called and answered so, or the
limiter itself gave no permit in time. The log tells the two apart, the pause does not.

Every other act is `Quiet`: it logs no pause, and the limiter stays blocked as it was or is blocked
no more. So the pauses of a run are traced back to the turns that made them, and each block to a
pause (`Fleet.pauses_traced`). That limiters pause themselves is no mere possibility: a provider
that always answers is left alone for it (`paused_by_refusals`).
-/

namespace Precis

variable {α : Type} [Quantity α]

namespace Bucket

/-- Who asks a bucket leaves its block as it was or lifts it. -/
theorem blocked_ask (b : Bucket α) (now : Nat) :
    (b.ask now).2.blocked = b.blocked ∨ (b.ask now).2.blocked = none := by
  rw [ask]
  cases b.pauseLeft now with
  | some span => exact Or.inl rfl
  | none =>
    right
    dsimp only
    rw [take]
    split
    · rfl
    · dsimp only
      split
      · exact blocked_refilled _ now
      · exact blocked_refilled _ now

omit [Quantity α] in
/-- A pause ends when it says, or an earlier one goes on. -/
theorem blocked_pauseFor {b : Bucket α} {span now t : Nat}
    (h : (b.pauseFor span now).blocked = some t) : b.blocked = some t ∨ t = now + span := by
  rw [pauseFor] at h
  cases hblocked : b.blocked with
  | none =>
    rw [hblocked] at h
    cases h
    exact Or.inr rfl
  | some last =>
    rw [hblocked] at h
    cases h
    -- the block that was there is the later one, or the new one is
    rcases Nat.le_total last (now + span) with hle | hle
    · exact Or.inr (Nat.max_eq_right hle)
    · exact Or.inl (congrArg some (Nat.max_eq_left hle).symm)

end Bucket

namespace Dispatch

variable {σ : Type} {settings : DispatchSettings} {provider : Provider σ} {now i : Nat}
  {w w' w'' : World α σ} {task task' : Task}

omit [Quantity α] in
/-- The limiter is blocked until then. -/
def World.BlockedUntil (w : World α σ) (t : Nat) : Prop :=
  ∃ l, w.limiter = some l ∧ l.bucket.blocked = some t

/-- From one world to the other there was no pause. -/
structure Quiet (w w' : World α σ) : Prop where
  log : ∃ later, w'.log = w.log ++ later ∧ ∀ i time span called, .paused i time span called ∉ later
  blocked : ∀ t, w'.BlockedUntil t → w.BlockedUntil t

namespace Quiet

omit [Quantity α]

theorem refl (w : World α σ) : Quiet w w where
  log := ⟨[], (List.append_nil _).symm, fun _ _ _ _ => List.not_mem_nil⟩
  blocked _ h := h

theorem trans (h : Quiet w w') (h' : Quiet w' w'') : Quiet w w'' where
  log := by
    obtain ⟨later, hlater, hquiet⟩ := h.log
    obtain ⟨more, hmore, hquiet'⟩ := h'.log
    refine ⟨later ++ more, by rw [hmore, hlater, List.append_assoc], ?_⟩
    intro i time span called hmem
    rcases List.mem_append.1 hmem with hmem | hmem
    · exact hquiet i time span called hmem
    · exact hquiet' i time span called hmem
  blocked t ht := h.blocked t (h'.blocked t ht)

/-- An event that is no pause may be added. -/
theorem concat {event : Event} (hlimiter : w'.limiter = w.limiter)
    (hlog : w'.log = w.log ++ [event])
    (hevent : ∀ i time span called, event ≠ .paused i time span called) : Quiet w w' where
  log := by
    refine ⟨[event], hlog, ?_⟩
    intro i time span called hmem
    exact hevent i time span called (List.mem_singleton.1 hmem).symm
  blocked t ht := by
    obtain ⟨l, hl, hblocked⟩ := ht
    exact ⟨l, hlimiter ▸ hl, hblocked⟩

theorem mem_log_iff (h : Quiet w w') {i time span : Nat} {called : Bool} :
    .paused i time span called ∈ w'.log ↔ .paused i time span called ∈ w.log := by
  obtain ⟨later, hlater, hquiet⟩ := h.log
  rw [hlater, List.mem_append]
  exact or_iff_left (hquiet i time span called)

end Quiet

/-- Who asks for a permit pauses nothing. -/
theorem quiet_ask {l l' : Limiter α} {caller : Caller} {answer : Limiter.Answer}
    (hlimiter : w.limiter = some l) (hask : l.ask caller now = (answer, l')) :
    Quiet w { w with limiter := some l' } where
  log := (Quiet.refl w).log
  blocked t ht := by
    obtain ⟨l₁, hl₁, hblocked⟩ := ht
    cases hl₁
    refine ⟨l, hlimiter, ?_⟩
    -- granted or not, the limiter is left with the bucket that was asked, or as it was
    have hbucket : l'.bucket = (l.bucket.ask now).2 ∨ l'.bucket = l.bucket := by
      -- the bucket was asked, unless the caller was not timed
      rcases l.ask_cases caller now with ⟨b, _, hb, hl⟩ | ⟨span, b, _, hb, hl⟩ | ⟨_, hl⟩
      · cases hask.symm.trans hl
        exact Or.inl (by rw [hb])
      · cases hask.symm.trans hl
        exact Or.inl (by rw [hb])
      · cases hask.symm.trans hl
        exact Or.inr rfl
    rcases hbucket with hbucket | hbucket
    · rw [hbucket] at hblocked
      -- asking may lift a block that is over, but sets none
      rcases l.bucket.blocked_ask now with hsame | hnone
      · rw [← hsame]
        exact hblocked
      · cases hnone.symm.trans hblocked
    · rw [← hbucket]
      exact hblocked

omit [Quantity α] in
theorem quiet_overWorld (start : Nat) (cut : Bool) :
    Quiet w (Task.overWorld now i w task start cut) :=
  .concat rfl rfl fun _ _ _ _ => Event.noConfusion

/-- A call pauses nothing. -/
theorem quiet_call (hpermitted : Task.Permitted now w task w' task') :
    Quiet w (Task.call settings provider now i w' task').1 := by
  have hstarted : Quiet w' (Task.call settings provider now i w' task').1 :=
    .concat rfl rfl fun _ _ _ _ => Event.noConfusion
  cases hpermitted with
  | free => exact hstarted
  | granted hlimiter _ hanswer => exact (quiet_ask hlimiter hanswer).trans hstarted

namespace Task

theorem Fails.quiet {e : CallError} {called : Bool}
    (h : Fails settings now i w task w' task' e called) : Quiet w w' := by
  cases h with
  | refused hlimiter _ hanswer => exact quiet_ask hlimiter hanswer
  | called => exact quiet_overWorld _ _

/-- The next act of a task pauses the limiter for a span. The last argument says whether the
provider asked for it. -/
inductive Pauses (settings : DispatchSettings) (now : Nat) (w : World α σ) (task : Task) :
    Nat → Bool → Prop
  /-- The provider was called and itself says that there were too many calls. -/
  | provider {l : Limiter α} {start : Nat} {e : CallError}
      (hitems : task.request.items.isEmpty = false) (hlimiter : w.limiter = some l)
      (hphase : task.phase = .calling start (.failed e) false)
      (hkind : e.kind = .rateLimit) (hagain : task.triesAgain settings e = true) :
      Pauses settings now w task (task.delay settings e) true
  /-- The limiter itself gives no permit in time. -/
  | limiter {l l' : Limiter α} {caller : Caller} {task' : Task}
      (hitems : task.request.items.isEmpty = false) (hlimiter : w.limiter = some l)
      (hasks : Asks now l task caller task') (hanswer : l.ask caller now = (.refused, l'))
      (hagain : task'.triesAgain settings (refusal l') = true) :
      Pauses settings now w task (task'.delay settings (refusal l')) false

/-- Too many calls is what the provider says: a call that is cut off or crashes ends with another
error. -/
theorem eq_failed_of_outcome {result : CallEnd} {cut : Bool} {e : CallError}
    (h : outcome settings result cut = .error e) (hkind : e.kind = .rateLimit) :
    result = .failed e ∧ cut = false := by
  cases cut with
  | true =>
    cases h
    cases hkind
  | false =>
    -- only an error that the provider names is of its kind
    cases result with
    | answered response => cases h
    | failed error =>
      cases h
      exact ⟨rfl, rfl⟩
    | crashed message =>
      cases h
      cases hkind

theorem Fails.pauses {l : Limiter α} {e : CallError} {called : Bool}
    (hitems : task.request.items.isEmpty = false)
    (h : Fails settings now i w task w' task' e called) (hkind : e.kind = .rateLimit)
    (hlimiter : w'.limiter = some l)
    (hagain : task'.triesAgain settings e = true) :
    Pauses settings now w task (task'.delay settings e) called := by
  cases h with
  | refused hasked hasks hanswer => exact .limiter hitems hasked hasks hanswer hagain
  | called hphase houtcome =>
    -- of the errors of a call only the provider's own can be of this kind
    obtain ⟨rfl, rfl⟩ := eq_failed_of_outcome houtcome hkind
    exact .provider hitems hlimiter hphase hkind hagain

/-- The act of a task that pauses the limiter does nothing else to the limiter and the pauses. -/
theorem Pauses.act_eq {span : Nat} {called : Bool} (h : Pauses settings now w task span called)
    (provider : Provider σ) (i : Nat) :
    ∃ w' l, Quiet w w' ∧ w'.limiter = some l ∧ (act settings provider now i w task).1 =
      { w' with
        limiter := some { l with bucket := l.bucket.pauseFor span now }
        log := w'.log ++ [.paused i now span called] } := by
  cases h with
  | @provider l start e hitems hlimiter hphase hkind hagain =>
    have hfails : Fails settings now i w task (overWorld now i w task start false) task e true :=
      .called hphase rfl
    have hover : (overWorld now i w task start false).limiter = some l := hlimiter
    refine ⟨_, l, hfails.quiet, hover, ?_⟩
    rw [hfails.act_eq hitems, failed, if_pos hagain]
    exact pause_eq hkind hover _ true
  | @limiter l l' caller task' hitems hlimiter hasks hanswer hagain =>
    have hfails : Fails settings now i w task { w with limiter := some l' } task'
        (refusal l') false :=
      .refused hlimiter hasks hanswer
    have hasked : ({ w with limiter := some l' } : World α σ).limiter = some l' := rfl
    refine ⟨_, l', hfails.quiet, hasked, ?_⟩
    rw [hfails.act_eq hitems, failed, if_pos hagain]
    exact pause_eq (e := refusal l') rfl hasked _ false

/-- Nothing else pauses the limiter. -/
theorem quiet_or_pauses (settings : DispatchSettings) (provider : Provider σ) (now i : Nat)
    (w : World α σ) (task : Task) :
    Quiet w (act settings provider now i w task).1 ∨
      ∃ span called, Pauses settings now w task span called := by
  have hacted := acted settings provider now i w task
  generalize act settings provider now i w task = next at hacted ⊢
  cases hacted with
  | empty => exact Or.inl (.refl w)
  | calls _ hpermitted => exact Or.inl (quiet_call hpermitted)
  | waits _ hlimiter _ hanswer => exact Or.inl (quiet_ask hlimiter hanswer)
  | overflows _ hlimiter _ hanswer => exact Or.inl (quiet_ask hlimiter hanswer)
  | answered => exact Or.inl (quiet_overWorld _ _)
  | @fails w' task' e called hitems hfails =>
    -- a request that ends pauses nothing, and neither does one that failed in another way
    rcases failed_cases settings now i w' task' e called with ⟨hagain, hfailed⟩ | ⟨_, hfailed⟩
    · rcases pause_cases now i w' e (task'.delay settings e) called with
        ⟨l, hkind, hlimiter, _⟩ | ⟨_, hpause⟩
      · exact Or.inr ⟨_, called, hfails.pauses hitems hkind hlimiter hagain⟩
      · rw [hfailed, hpause]
        exact Or.inl hfails.quiet
    · rw [hfailed]
      exact Or.inl hfails.quiet

/-- The pauses in the log after an act are those before and that of the act. -/
theorem paused_mem_act {k time span : Nat} {called : Bool} :
    .paused k time span called ∈ (act settings provider now i w task).1.log ↔
      .paused k time span called ∈ w.log ∨
        k = i ∧ time = now ∧ Pauses settings now w task span called := by
  constructor
  · intro hmem
    rcases quiet_or_pauses settings provider now i w task with hquiet | ⟨span', called', hpauses⟩
    · exact Or.inl (hquiet.mem_log_iff.1 hmem)
    · -- the pause of the act is the last event, and no other one is new
      obtain ⟨w', l, hquiet, _, hact⟩ := hpauses.act_eq provider i
      rw [hact] at hmem
      rcases List.mem_append.1 hmem with hmem | hmem
      · exact Or.inl (hquiet.mem_log_iff.1 hmem)
      · cases List.mem_singleton.1 hmem
        exact Or.inr ⟨rfl, rfl, hpauses⟩
  · rintro (hmem | ⟨rfl, rfl, hpauses⟩)
    · rcases quiet_or_pauses settings provider now i w task with hquiet | ⟨span', called', hpauses⟩
      · exact hquiet.mem_log_iff.2 hmem
      · obtain ⟨w', l, hquiet, _, hact⟩ := hpauses.act_eq provider i
        rw [hact]
        exact List.mem_append_left _ (hquiet.mem_log_iff.2 hmem)
    · obtain ⟨w', l, _, _, hact⟩ := hpauses.act_eq provider k
      rw [hact]
      exact List.mem_append_right _ (List.mem_singleton.2 rfl)

/-- After an act the limiter is blocked by the pause of the act, or as it was before. -/
theorem blockedUntil_act {t : Nat} (h : (act settings provider now i w task).1.BlockedUntil t) :
    w.BlockedUntil t ∨ ∃ span called, Pauses settings now w task span called ∧ t = now + span := by
  rcases quiet_or_pauses settings provider now i w task with hquiet | ⟨span, called, hpauses⟩
  · exact Or.inl (hquiet.blocked t h)
  · obtain ⟨w', l, hquiet, hlimiter, hact⟩ := hpauses.act_eq provider i
    rw [hact] at h
    obtain ⟨l', hl', hblocked⟩ := h
    cases hl'
    -- of the pause before and the one of the act the later end counts
    rcases Bucket.blocked_pauseFor hblocked with hold | hnew
    · exact Or.inl (hquiet.blocked t ⟨l, hlimiter, hold⟩)
    · exact Or.inr ⟨span, called, hpauses, hnew⟩

end Task

/-! ## All turns of a run -/

namespace Fleet

/-- At this turn a task with the number `i` in its dispatch pauses the limiter. -/
inductive Pauses (f : Fleet α σ) : Turn σ → Nat → Nat → Bool → Prop
  | act {k j i span : Nat} {called : Bool} {m : Member σ} {task : Task}
      (hmember : f.members[k]? = some m) (hawake : m.ready[j]? = some (i, task))
      (hpauses : task.Pauses m.settings f.now f.world span called) :
      Pauses f (.act k j) i span called

/-- One of the turns pauses the limiter at that time. -/
def PausedIn (f : Fleet α σ) (turns : List (Turn σ)) (i time span : Nat) (called : Bool) : Prop :=
  ∃ n next, turns[n]? = some next ∧ (f.run (turns.take n)).now = time ∧
    (f.run (turns.take n)).Pauses next i span called

variable {f : Fleet α σ} {next : Turn σ} {turns : List (Turn σ)} {time span t : Nat} {called : Bool}

theorem pausedIn_cons :
    f.PausedIn (next :: turns) i time span called ↔
      f.now = time ∧ f.Pauses next i span called ∨
        (f.turn next).PausedIn turns i time span called := by
  constructor
  · rintro ⟨n, next', hnext, htime, hpauses⟩
    cases n with
    | zero =>
      cases hnext
      exact Or.inl ⟨htime, hpauses⟩
    | succ n => exact Or.inr ⟨n, next', hnext, htime, hpauses⟩
  · rintro (⟨htime, hpauses⟩ | ⟨n, next', hnext, htime, hpauses⟩)
    · exact ⟨0, next, rfl, htime, hpauses⟩
    · exact ⟨n + 1, next', hnext, htime, hpauses⟩

theorem pauses_act_iff {k j : Nat} {m : Member σ} {task : Task} (hmember : f.members[k]? = some m)
    (hawake : m.ready[j]? = some (i, task)) {i' : Nat} :
    f.Pauses (.act k j) i' span called ↔ i' = i ∧
      task.Pauses m.settings f.now f.world span called := by
  constructor
  · rintro ⟨hsome, hready, hpauses⟩
    cases hmember.symm.trans hsome
    cases hawake.symm.trans hready
    exact ⟨rfl, hpauses⟩
  · rintro ⟨rfl, hpauses⟩
    exact .act hmember hawake hpauses

theorem paused_mem_turn :
    .paused i time span called ∈ (f.turn next).world.log ↔
      .paused i time span called ∈ f.world.log ∨ f.now = time ∧ f.Pauses next i span called := by
  rcases f.turn_cases next with ⟨k, j, m, i', task, rfl, hmember, hawake⟩ | ⟨_, hworld, hasleep⟩
  · rw [turn_act hmember hawake, pauses_act_iff hmember hawake]
    refine Task.paused_mem_act.trans (or_congr_right ?_)
    rw [eq_comm (a := time), and_left_comm]
  · rw [hworld]
    refine (or_iff_left ?_).symm
    rintro ⟨_, hmember, hawake, _⟩
    cases (hasleep _ _ _ rfl hmember).symm.trans hawake

theorem blockedUntil_turn (h : (f.turn next).world.BlockedUntil t) :
    f.world.BlockedUntil t ∨ ∃ i span called, f.Pauses next i span called ∧ t = f.now + span := by
  rcases f.turn_cases next with ⟨k, j, m, i, task, rfl, hmember, hawake⟩ | ⟨_, hworld, _⟩
  · rw [turn_act hmember hawake] at h
    rcases Task.blockedUntil_act h with h | ⟨span, called, hpauses, ht⟩
    · exact Or.inl h
    · exact Or.inr ⟨i, span, called, .act hmember hawake hpauses, ht⟩
  · rw [hworld] at h
    exact Or.inl h

theorem paused_mem_run :
    .paused i time span called ∈ (f.run turns).world.log ↔
      .paused i time span called ∈ f.world.log ∨ f.PausedIn turns i time span called := by
  induction turns generalizing f with
  | nil =>
    refine (or_iff_left ?_).symm
    rintro ⟨n, next, hnext, _⟩
    cases hnext
  | cons next rest ih =>
    -- the first turn adds its own pause, and the run from there those of the other turns
    rw [run_cons, ih, paused_mem_turn, pausedIn_cons, or_assoc]

theorem blockedUntil_run (h : (f.run turns).world.BlockedUntil t) :
    f.world.BlockedUntil t ∨
      ∃ i time span called, f.PausedIn turns i time span called ∧ t = time + span := by
  induction turns generalizing f with
  | nil => exact Or.inl h
  | cons next rest ih =>
    rcases ih h with h | ⟨i, time, span, called, hpaused, ht⟩
    · rcases blockedUntil_turn h with h | ⟨i, span, called, hpauses, ht⟩
      · exact Or.inl h
      · exact Or.inr ⟨i, f.now, span, called, pausedIn_cons.2 (Or.inl ⟨rfl, hpauses⟩), ht⟩
    · exact Or.inr ⟨i, time, span, called, pausedIn_cons.2 (Or.inr hpaused), ht⟩

/-- Whatever turns the dispatches take, the log has just the pauses of the attempts that ended with
too many calls and were followed by another one, with the request, the time, the delay, and whether
the provider said so or the limiter itself gave no permit in time. The limiter is blocked by these
pauses only: until the end of one of them, or as it was at first. -/
theorem pauses_traced (f : Fleet α σ) (turns : List (Turn σ)) :
    (∀ i time span called, .paused i time span called ∈ (f.run turns).world.log ↔
      .paused i time span called ∈ f.world.log ∨ f.PausedIn turns i time span called) ∧
    ∀ t, (f.run turns).world.BlockedUntil t → f.world.BlockedUntil t ∨
      ∃ i time span called, f.PausedIn turns i time span called ∧ t = time + span :=
  ⟨fun _ _ _ _ => paused_mem_run, fun _ => blockedUntil_run⟩

end Fleet

namespace Hurried

open Time.Span (ofSeconds)

def request (id : Nat) (item : Int64) : Request :=
  { id
    items := [{ id := item, title := "a post", content := "about it", timestamp := .epoch }]
    estimatedTokens := 10 }

/-- Three posts. -/
def requests : List Request := [request 0 1, request 1 2, request 2 3]

/-- It takes three seconds for each call and summarizes every item. -/
def obliging : Provider Unit := fun _ _ items =>
  let response : Response := items.map fun item => (item.id, .summary { text := "short" })
  ({ millis := 3000, result := .answered response }, ())

/-- One permit in two seconds, for which nobody waits longer than one. -/
def world : World Rat Unit :=
  { limiter := some (.new "api" { rate := 1 / 2, burst := 1, timeout := some (ofSeconds 1) } 0)
    provider := () }

end Hurried

open Hurried in
open Time.Span (ofSeconds) in
/-- The provider never says that there were too many calls, and yet the limiter is blocked: the
second request, which gets no permit in time, pauses it for all. So does the third one later on; the
second is refused again for it and ends without a call, and the third waits for 18 seconds. -/
theorem paused_by_refusals :
    (∀ now state items, ∃ response, (obliging now state items).1.result = .answered response) ∧
      ((start { } world 0 requests).after (Task.act { } obliging) 2).world.BlockedUntil
        (ofSeconds 5) ∧
      (run { } obliging 100 world 0 requests).bind (·.toOption.map (·.world.log)) =
        some
          [.started 0 0, .paused 1 0 (ofSeconds 5) false, .ended ⟨0, [1], 0, ofSeconds 3, false⟩,
            .paused 2 (ofSeconds 3) (ofSeconds 5) false,
            .paused 1 (ofSeconds 5) (ofSeconds 10) false,
            .paused 2 (ofSeconds 8) (ofSeconds 10) false, .started 2 (ofSeconds 18),
            .ended ⟨2, [3], ofSeconds 18, ofSeconds 21, false⟩] := by
  have hblocked : ((start { } world 0 requests).after (Task.act { } obliging) 2).world.limiter.bind
      (·.bucket.blocked) = some (ofSeconds 5) := by decide +kernel
  exact ⟨fun _ _ items => ⟨_, rfl⟩, Option.bind_eq_some_iff.1 hblocked, by decide +kernel⟩

end Dispatch

end Precis
