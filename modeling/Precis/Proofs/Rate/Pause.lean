import Precis.Proofs.Rate.Exact
import Precis.Proofs.Rate.Traffic

/-!
# Pauses are kept

When a limiter was paused for a span, nobody gets a permit from it before the span is over: neither
those who come later, nor those who were waiting, nor after other pauses that end earlier
(`Traffic.pause_kept`).

The invariant is `Bucket.Shut`: before the time `release` the bucket stands blocked until then or
later. A pause only ever moves the end of the block, and a block is lifted by nobody before its end.
-/

namespace Precis

variable {α : Type} [Quantity α]

namespace Bucket

/-- Before `release` the bucket is blocked, and for as long as that. -/
def Shut (release now : Nat) (b : Bucket α) : Prop :=
  now < release → ∃ last, b.blocked = some last ∧ release ≤ last

variable {b b' : Bucket α} {release now : Nat}

omit [Quantity α] in
theorem Shut.later {time : Nat} (h : b.Shut release now) (htime : now ≤ time) :
    b.Shut release time := by
  intro hbefore
  exact h (Nat.lt_of_le_of_lt htime hbefore)

omit [Quantity α] in
/-- The pause itself shuts the bucket, whatever block there was. -/
theorem shut_pauseFor (b : Bucket α) (span now time : Nat) :
    (b.pauseFor span now).Shut (now + span) time := by
  intro _
  -- of two pauses the later end counts
  cases hblocked : b.blocked with
  | none => exact ⟨now + span, by rw [pauseFor, hblocked]; rfl, Nat.le_refl _⟩
  | some last =>
    exact ⟨max last (now + span), by rw [pauseFor, hblocked]; rfl, Nat.le_max_right _ _⟩

omit [Quantity α] in
/-- Another pause leaves it shut. -/
theorem Shut.pauseFor (h : b.Shut release now) (span : Nat) :
    (b.pauseFor span now).Shut release now := by
  intro hbefore
  obtain ⟨last, hblocked, hlast⟩ := h hbefore
  refine ⟨max last (now + span), ?_, Nat.le_trans hlast (Nat.le_max_left _ _)⟩
  rw [Bucket.pauseFor, hblocked]
  rfl

/-- Who asks a shut bucket is sent away, and the bucket stays as it is. -/
theorem Shut.ask_eq (h : b.Shut release now) (hbefore : now < release) :
    ∃ span, b.ask now = (.wait span, b) := by
  obtain ⟨last, hblocked, hlast⟩ := h hbefore
  have hleft : b.pauseLeft now = some (last - now) := by
    rw [pauseLeft, hblocked]
    exact if_pos (Nat.lt_of_lt_of_le hbefore hlast)
  exact ⟨last - now, by rw [ask, hleft]⟩

theorem Shut.ask (h : b.Shut release now) {grant : Grant} (hask : b.ask now = (grant, b')) :
    b'.Shut release now ∧ (grant = .permit → release ≤ now) := by
  -- before the time it is sent away; after it nothing is claimed
  by_cases hbefore : now < release
  · obtain ⟨span, hwait⟩ := h.ask_eq hbefore
    cases hask.symm.trans hwait
    exact ⟨h, by simp⟩
  · exact ⟨fun hlater => absurd hlater hbefore, fun _ => Nat.le_of_not_lt hbefore⟩

theorem blocked_refilled (b : Bucket α) (now : Nat) : (b.refilled now).blocked = b.blocked := by
  show (if _ then _ else b : Bucket α).blocked = b.blocked
  split <;> rfl

/-- A look at the bucket does not lift a block, not even one that is over. -/
theorem blocked_view (b : Bucket α) (now : Nat) : (b.view now).2.blocked = b.blocked := by
  rw [view_snd]
  split
  · exact blocked_refilled b now
  · rfl

/-- Whatever a visit does, a shut bucket stays shut, and gives no permit before its time. -/
theorem Shut.touches {deed : Limiter.Deed} (h : b.Shut release now)
    (htouches : b.Touches now deed b') :
    b'.Shut release now ∧ (deed.permit? = some true → release ≤ now) := by
  cases htouches with
  | granted _ hask =>
    obtain ⟨hshut, hpermit⟩ := h.ask hask
    exact ⟨hshut, fun _ => hpermit rfl⟩
  | denied hdeed hask =>
    -- who is denied has no permit at any time
    refine ⟨(h.ask hask).1, ?_⟩
    intro hgrants
    cases hdeed.symm.trans hgrants
  | paused span =>
    refine ⟨h.pauseFor span, ?_⟩
    intro hgrants
    cases hgrants
  | viewed =>
    -- a look may refill the bucket, but leaves the block
    constructor
    · intro hbefore
      rw [blocked_view]
      exact h hbefore
    · intro hgrants
      cases hgrants
  | untimed =>
    refine ⟨h, ?_⟩
    intro hgrants
    cases hgrants

end Bucket

namespace Limiter.Traffic

/-- A limiter that is shut stays so through any visits, and no permit is granted before its time. -/
theorem Run.shut {s t : Traffic α} {history : List Visit} {release : Nat}
    (h : s.limiter.bucket.Shut release s.now) (hrun : s.Run history t) :
    t.limiter.bucket.Shut release t.now ∧
      ∀ visit ∈ history, visit.grants = true → release ≤ visit.time := by
  induction hrun with
  | nil => exact ⟨h, fun visit hvisit => absurd hvisit List.not_mem_nil⟩
  | @snoc history visit t u _ hstep ih =>
    obtain ⟨hshut, hbefore⟩ := ih
    obtain ⟨hnow, htime, htouches⟩ := hstep.touches
    obtain ⟨hshut', hgrants⟩ := (hshut.later hnow).touches htouches
    constructor
    · rw [htime]
      exact hshut'
    · intro other hother
      -- either an earlier visit or this one
      rcases List.mem_append.1 hother with hother | hother
      · exact hbefore other hother
      · rw [List.mem_singleton.1 hother]
        intro hgranted
        exact hgrants (of_decide_eq_true hgranted)

/-- After a pause for a span no visit gets a permit before the span is over, whoever waits, comes or
pauses in between. -/
theorem pause_kept {s t u : Traffic α} {time span : Nat} {history : List Visit}
    (hpause : s.Step ⟨time, .paused span⟩ t) (hrun : t.Run history u) :
    ∀ visit ∈ history, visit.grants = true → time + span ≤ visit.time := by
  have hshut : t.limiter.bucket.Shut (time + span) t.now := by
    obtain ⟨_, htime, htouches⟩ := hpause.touches
    generalize t.limiter.bucket = b at htouches ⊢
    cases htouches with
    | granted hdeed => cases hdeed
    | denied hdeed => cases hdeed
    | paused => exact Bucket.shut_pauseFor _ span time t.now
  exact (hrun.shut hshut).2

open Time.Span (ofMillis)

/-- One caller has got the only permit, and another one waits for the next. -/
def waiting : Traffic Rat :=
  let first : Traffic Rat := opened "api" { rate := 2, burst := 1 } 0
  let second := first.asked 0 (first.limiter.caller 0) []
  second.asked 0 (second.limiter.caller 0) []

/-- The limiter is paused for a second while the caller waits. -/
def held : Traffic Rat :=
  waiting.used (ofMillis 100) (waiting.limiter.bucket.pauseFor (ofMillis 1000) (ofMillis 100))

/-- A shorter pause comes later, and the caller wakes in the middle. -/
theorem pause_kept_waiting : ∃ history u,
    waiting.Step ⟨ofMillis 100, .paused (ofMillis 1000)⟩ held ∧ held.Run history u ∧
      history =
        [⟨ofMillis 200, .paused (ofMillis 100)⟩, ⟨ofMillis 300, .tried false⟩,
          ⟨ofMillis 500, .asked (.later (ofMillis 1100))⟩, ⟨ofMillis 1100, .asked .granted⟩] ∧
      ∀ visit ∈ history, visit.grants = true → ofMillis 100 + ofMillis 1000 ≤ visit.time := by
  have hpause : waiting.Step ⟨ofMillis 100, .paused (ofMillis 1000)⟩ held :=
    .pauseFor (ofMillis 100) (ofMillis 1000) (by decide)
  have hrun : ∃ history u, held.Run history u ∧
      history =
        [⟨ofMillis 200, .paused (ofMillis 100)⟩, ⟨ofMillis 300, .tried false⟩,
          ⟨ofMillis 500, .asked (.later (ofMillis 1100))⟩, ⟨ofMillis 1100, .asked .granted⟩] := by
    refine ⟨_, _, .snoc (.snoc (.snoc (.snoc .nil
      (.pauseFor (ofMillis 200) (ofMillis 100) (by decide)))
      (.tryAcquire (ofMillis 300) (by decide)))
      (.wake (ofMillis 500) 0 (ofMillis 500) ⟨none⟩ (by decide) (by decide +kernel) (by decide)))
      (.wake (ofMillis 1100) 0 (ofMillis 1100) ⟨none⟩ (by decide) (by decide +kernel) (by decide)),
      ?_⟩
    decide +kernel
  obtain ⟨history, u, hrun, hhistory⟩ := hrun
  exact ⟨history, u, hpause, hrun, hhistory, pause_kept hpause hrun⟩

end Limiter.Traffic

end Precis
