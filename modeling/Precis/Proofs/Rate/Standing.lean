import Mathlib.Tactic.Linarith
import Mathlib.Tactic.Ring
import Precis.Proofs.Rate.Deadline
import Precis.Proofs.Rate.Exact
import Precis.Proofs.Rate.Pause

/-!
# The bucket as it stands

A bucket is brought up to date only when somebody uses it, so what it holds says little: when it was
last refilled, and whether a pause that is over is still noted, depends on who came by.
`Bucket.asOf` is the bucket as it stands at a time. With exact quantities it is the same whatever
was brought up to date on the way (`asOf_asOf`), all that is ever done with a bucket depends on it
alone (`ask_asOf`, `pauseFor_asOf`, `view_asOf`), and a look, or to be sent away, leaves it as it is
(`view_asOf`, `asOf_of_wait`).
-/

namespace Precis

open Quantity

namespace Bucket

section AsOf

variable {α : Type} [Quantity α]

/-- The bucket without a pause that is over. -/
def unblocked (b : Bucket α) (now : Nat) : Bucket α :=
  { b with blocked := b.blocked.filter (now < ·) }

/-- The bucket as it stands at a time: refilled up to then, and without a pause that is over. -/
def asOf (b : Bucket α) (now : Nat) : Bucket α :=
  if less zero b.config.rate then (b.unblocked now).refilled now else b.unblocked now

@[simp] theorem config_asOf (b : Bucket α) (now : Nat) : (b.asOf now).config = b.config := by
  unfold asOf
  split
  · exact config_refilled _ now
  · rfl

theorem blocked_asOf (b : Bucket α) (now : Nat) :
    (b.asOf now).blocked = b.blocked.filter (now < ·) := by
  unfold asOf
  split
  · exact blocked_refilled _ now
  · rfl

theorem pauseLeft_asOf (b : Bucket α) (now : Nat) :
    (b.asOf now).pauseLeft now = b.pauseLeft now := by
  rw [pauseLeft, blocked_asOf, pauseLeft]
  cases b.blocked with
  | none => rfl
  | some last => by_cases hafter : now < last <;> simp [Option.filter, hafter]

/-- Refilling has nothing to do with pauses. -/
theorem refilled_with_blocked (b : Bucket α) (blocked : Option Nat) (now : Nat) :
    { b with blocked }.refilled now = { b.refilled now with blocked } := by
  unfold refilled
  dsimp only
  split <;> rfl

theorem unblocked_refilled (b : Bucket α) (now time : Nat) :
    (b.refilled now).unblocked time = (b.unblocked time).refilled now := by
  unfold unblocked refilled
  dsimp only
  split <;> rfl

omit [Quantity α] in
theorem unblocked_unblocked (b : Bucket α) {now time : Nat} (h : now ≤ time) :
    (b.unblocked now).unblocked time = b.unblocked time := by
  obtain ⟨config, permits, mark, blocked⟩ := b
  cases blocked with
  | none => rfl
  | some last =>
    -- a pause that lasts beyond the first time is judged at the second
    by_cases hafter : now < last
    · simp [unblocked, Option.filter, hafter]
    · have hover : ¬ time < last := by omega
      simp [unblocked, Option.filter, hafter, hover]

omit [Quantity α] in
theorem unblocked_of_open {b : Bucket α} {now : Nat} (h : b.pauseLeft now = none) :
    b.unblocked now = { b with blocked := none } := by
  obtain ⟨config, permits, mark, blocked⟩ := b
  cases blocked with
  | none => rfl
  | some last =>
    by_cases hafter : now < last
    · simp [pauseLeft, hafter] at h
    · simp [unblocked, Option.filter, hafter]

end AsOf

variable {b b' : Bucket Rat} {now time : Nat}

theorem asOf_of_pos (hrate : 0 < b.config.rate) (now : Nat) :
    b.asOf now = (b.unblocked now).refilled now :=
  if_pos (less_iff.2 hrate)

theorem asOf_of_nonpos (hrate : b.config.rate ≤ 0) (now : Nat) : b.asOf now = b.unblocked now :=
  if_neg fun hlimited => not_lt.2 hrate (less_iff.1 hlimited)

/-- What is cut off at the burst stays cut off when more comes. -/
theorem min_min_add {x y burst : Rat} (hy : 0 ≤ y) :
    min (min x burst + y) burst = min (x + y) burst := by
  rw [← min_add_add_right, min_assoc, min_eq_right (le_add_of_nonneg_right hy)]

/-- Two refills bring as much as the second one alone. -/
theorem refilled_refilled (hrate : 0 < b.config.rate) (h : now ≤ time) :
    (b.refilled now).refilled time = b.refilled time := by
  by_cases hfirst : b.mark < now
  · -- the two spans add up, unless the second refill has nothing to do
    rcases Nat.lt_or_eq_of_le h with hlater | rfl
    · have hsum : b.permits + ofSpan (now - b.mark) * b.config.rate +
          ofSpan (time - now) * b.config.rate
          = b.permits + ofSpan (time - b.mark) * b.config.rate := by
        rw [← ofSpan_sub_add (Nat.le_of_lt hfirst) h]
        ring
      have hbrought : 0 ≤ ofSpan (time - now) * b.config.rate :=
        mul_nonneg (ofSpan_nonneg _) (le_of_lt hrate)
      rw [refilled_of_lt (Nat.lt_of_lt_of_le hfirst h), ← hsum, ← min_min_add hbrought,
        refilled_of_lt hfirst]
      exact refilled_of_lt hlater
    · rw [refilled_of_lt hfirst]
      exact refilled_of_le (Nat.le_refl _)
  · rw [refilled_of_le (Nat.le_of_not_lt hfirst)]

/-- How a bucket stands does not depend on when it was brought up to date before. -/
theorem asOf_asOf (b : Bucket Rat) (h : now ≤ time) : (b.asOf now).asOf time = b.asOf time := by
  -- only a bucket with a rate is refilled
  rcases lt_or_ge 0 b.config.rate with hrate | hrate
  · have hrate' : 0 < (b.asOf now).config.rate := by rwa [config_asOf]
    rw [asOf_of_pos hrate', asOf_of_pos hrate, asOf_of_pos hrate, unblocked_refilled,
      unblocked_unblocked b h]
    exact refilled_refilled hrate h
  · have hrate' : (b.asOf now).config.rate ≤ 0 := by rwa [config_asOf]
    rw [asOf_of_nonpos hrate', asOf_of_nonpos hrate, asOf_of_nonpos hrate, unblocked_unblocked b h]

/-! ## What a bucket is used for -/

theorem ask_of_paused {span : Nat} (h : b.pauseLeft now = some span) :
    b.ask now = (.wait span, b) := by
  rw [ask, h]

theorem ask_of_open (h : b.pauseLeft now = none) : b.ask now = (b.unblocked now).take now := by
  rw [ask, h, unblocked_of_open h]

theorem take_of_nonpos (hrate : b.config.rate ≤ 0) : b.take now = (.permit, b) :=
  if_pos (leq_iff.2 hrate)

/-- What is taken is taken after refilling. -/
theorem take_of_pos (hrate : 0 < b.config.rate) : b.take now =
    if leq one (b.refilled now).permits then
      (.permit, { b.refilled now with permits := (b.refilled now).permits - one })
    else (.wait (toSpan ((one - (b.refilled now).permits) / (b.refilled now).config.rate)),
      b.refilled now) :=
  if_neg fun hunlimited => not_le.2 hrate (leq_iff.1 hunlimited)

theorem le_mark_refilled (b : Bucket Rat) (now : Nat) : now ≤ (b.refilled now).mark := by
  rcases Nat.lt_or_ge b.mark now with hlater | hsame
  · rw [refilled_of_lt hlater]
  · rw [refilled_of_le hsame]
    exact hsame

@[simp] theorem unblocked_asOf (b : Bucket Rat) (now : Nat) :
    (b.asOf now).unblocked now = b.asOf now := by
  rcases lt_or_ge 0 b.config.rate with hrate | hrate
  · rw [asOf_of_pos hrate, unblocked_refilled, unblocked_unblocked b (Nat.le_refl now)]
  · rw [asOf_of_nonpos hrate, unblocked_unblocked b (Nat.le_refl now)]

theorem refilled_asOf (hrate : 0 < b.config.rate) : (b.asOf now).refilled now = b.asOf now := by
  rw [asOf_of_pos hrate]
  exact refilled_refilled hrate (Nat.le_refl now)

theorem asOf_refilled (hrate : 0 < b.config.rate) : (b.refilled now).asOf now = b.asOf now := by
  have hrate' : 0 < (b.refilled now).config.rate := by rwa [config_refilled]
  rw [asOf_of_pos hrate', asOf_of_pos hrate, unblocked_refilled]
  exact refilled_refilled hrate (Nat.le_refl now)

/-- A bucket that is up to date is so with any permits in it. -/
theorem asOf_with_permits (b : Bucket Rat) (now : Nat) (permits : Rat) :
    { b.asOf now with permits }.asOf now = { b.asOf now with permits } := by
  have hunblocked : { b.asOf now with permits }.unblocked now = { b.asOf now with permits } := by
    show { (b.asOf now).unblocked now with permits } = _
    rw [unblocked_asOf]
  rcases lt_or_ge 0 b.config.rate with hrate | hrate
  · have hrate' : 0 < { b.asOf now with permits }.config.rate := by rwa [config_asOf]
    have hmark : now ≤ { b.asOf now with permits }.mark := by
      rw [asOf_of_pos hrate]
      exact le_mark_refilled _ now
    rw [asOf_of_pos hrate', hunblocked, refilled_of_le hmark]
  · have hrate' : { b.asOf now with permits }.config.rate ≤ 0 := by rwa [config_asOf]
    rw [asOf_of_nonpos hrate', hunblocked]

/-- A bucket and the bucket as it stands answer alike, and stand alike afterwards. -/
theorem ask_asOf (b : Bucket Rat) (now : Nat) :
    (b.asOf now).ask now = ((b.ask now).1, (b.ask now).2.asOf now) := by
  cases hpause : b.pauseLeft now with
  | some span =>
    -- a paused bucket says how long, and stays as it is
    rw [ask_of_paused ((pauseLeft_asOf b now).trans hpause), ask_of_paused hpause]
  | none =>
    rw [ask_of_open ((pauseLeft_asOf b now).trans hpause), ask_of_open hpause, unblocked_asOf]
    rcases lt_or_ge 0 b.config.rate with hrate | hrate
    · have hrate' : 0 < (b.asOf now).config.rate := by rwa [config_asOf]
      have hunblocked : 0 < (b.unblocked now).config.rate := hrate
      rw [take_of_pos hrate', take_of_pos hunblocked, refilled_asOf hrate, ← asOf_of_pos hrate]
      -- both look at the same permits, and take one of them or leave them
      by_cases hone : leq one (b.asOf now).permits = true
      · rw [if_pos hone]
        exact congrArg (Prod.mk _) (asOf_with_permits b now _).symm
      · rw [if_neg hone]
        exact congrArg (Prod.mk _) (asOf_asOf b (Nat.le_refl now)).symm
    · have hrate' : (b.asOf now).config.rate ≤ 0 := by rwa [config_asOf]
      rw [← asOf_of_nonpos hrate, take_of_nonpos hrate', asOf_asOf b (Nat.le_refl now)]

/-- To be sent away leaves the bucket as it stands. -/
theorem asOf_of_wait {span : Nat} (h : b.ask now = (.wait span, b')) :
    b'.asOf now = b.asOf now := by
  cases hpause : b.pauseLeft now with
  | some left =>
    rw [ask_of_paused hpause] at h
    cases h
    rfl
  | none =>
    rw [ask_of_open hpause] at h
    -- with a rate it was refilled, without one nobody is sent away
    rcases lt_or_ge 0 b.config.rate with hrate | hrate
    · rw [take_of_pos (b := b.unblocked now) hrate] at h
      split at h
      · cases h
      · cases h
        rw [← asOf_of_pos hrate, asOf_asOf b (Nat.le_refl now)]
    · rw [take_of_nonpos (b := b.unblocked now) hrate] at h
      cases h

theorem asOf_of_denied (h : (b.tryAcquire now).1 = false) :
    (b.tryAcquire now).2.asOf now = b.asOf now := by
  unfold tryAcquire at h ⊢
  cases hask : b.ask now with
  | mk grant b' =>
    cases grant with
    | permit => simp [hask] at h
    | wait span => exact asOf_of_wait hask

theorem asOf_with_blocked (b : Bucket Rat) (blocked : Option Nat) (now : Nat) :
    { b with blocked }.asOf now = { b.asOf now with blocked := blocked.filter (now < ·) } := by
  rcases lt_or_ge 0 b.config.rate with hrate | hrate
  · rw [asOf_of_pos hrate, asOf_of_pos (b := { b with blocked }) hrate, ← unblocked_refilled,
      ← unblocked_refilled, refilled_with_blocked]
    rfl
  · rw [asOf_of_nonpos hrate, asOf_of_nonpos (b := { b with blocked }) hrate]
    rfl

/-- The later end of two pauses, of which the first may be over. -/
theorem pauseEnd_filter (blocked : Option Nat) (span now : Nat) :
    ((blocked.filter (now < ·)).map (max · (now + span))).getD (now + span)
      = (blocked.map (max · (now + span))).getD (now + span) := by
  cases blocked with
  | none => rfl
  | some last =>
    by_cases hafter : now < last
    · -- the old pause goes on, and the later end counts
      simp [Option.filter, hafter]
    · have hlonger : max last (now + span) = now + span := by omega
      simp [Option.filter, hafter, hlonger]

/-- A pause is the same for a bucket and for the bucket as it stands. -/
theorem pauseFor_asOf (b : Bucket Rat) (span now : Nat) :
    ((b.asOf now).pauseFor span now).asOf now = (b.pauseFor span now).asOf now := by
  -- a pause that is over ends before the new one, whether it is still noted or not
  have hend : (b.asOf now).pauseFor span now = { b.asOf now with
      blocked := some ((b.blocked.map (max · (now + span))).getD (now + span)) } := by
    rw [pauseFor, blocked_asOf, pauseEnd_filter]
  rw [hend]
  refine (asOf_with_blocked _ _ now).trans (Eq.trans ?_ (asOf_with_blocked b _ now).symm)
  rw [asOf_asOf b (Nat.le_refl now)]

/-- A look shows the bucket as it stands, and leaves it so. -/
theorem view_asOf (b : Bucket Rat) (now : Nat) :
    ((b.asOf now).view now).1 = (b.view now).1 ∧ (b.view now).2.asOf now = b.asOf now := by
  by_cases hlimited : less zero b.config.rate = true
  · have hrate := less_iff.1 hlimited
    have hpermits : (b.asOf now).permits = (b.refilled now).permits := by
      rw [asOf_of_pos hrate, ← unblocked_refilled]
      rfl
    constructor
    · unfold view
      dsimp only
      rw [pauseLeft_asOf, config_asOf, refilled_asOf hrate, if_pos hlimited,
        if_pos hlimited, config_asOf, config_refilled, hpermits]
      split <;> rfl
    · rw [view_snd, if_pos hlimited, asOf_refilled hrate]
  · have hstands : b.asOf now = b.unblocked now := if_neg hlimited
    constructor
    · unfold view
      dsimp only
      rw [pauseLeft_asOf, config_asOf, if_neg hlimited, if_neg hlimited, hstands]
      rfl
    · rw [view_snd, if_neg hlimited]

/-- Buckets that stand alike answer alike, and stand alike afterwards. -/
theorem ask_of_asOf_eq (h : b.asOf now = b'.asOf now) :
    (b.ask now).1 = (b'.ask now).1 ∧ (b.ask now).2.asOf now = (b'.ask now).2.asOf now := by
  have hask := ask_asOf b now
  rw [h, ask_asOf] at hask
  exact ⟨(congrArg Prod.fst hask).symm, (congrArg Prod.snd hask).symm⟩

theorem config_of_asOf_eq (h : b.asOf now = b'.asOf now) : b.config = b'.config := by
  rw [← config_asOf b now, h, config_asOf]

end Bucket

end Precis
