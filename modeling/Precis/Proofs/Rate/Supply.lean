import Mathlib.Tactic.Linarith
import Mathlib.Tactic.Ring
import Precis.Proofs.Rate.Exact
import Precis.Proofs.Rate.Traffic

/-!
# What a limiter gives in a window of time

A limiter with a rate gives no more permits in any window of time than its burst and what the rate
brings in that time (`Traffic.permits_le`). Quantities are exact here: rounded ones could drift.

The proof keeps an account from the start of the window on. The first permit in the window is taken
out of a bucket that holds the burst at most. From then on each permit that was given and each one
that is still there came with the burst or with the time up to the mark of the bucket
(`Bucket.Covers`). Refilling moves the mark and adds what that time brings, less what the burst cuts
off; a permit moves from the bucket to those that were given; nothing else touches either.
-/

namespace Precis

open Quantity

/-! ## The account of a bucket -/

namespace Bucket

variable {config : BucketConfig Rat} {b b' : Bucket Rat} {now time first taken : Nat}

/-- What is in the bucket is within its burst, and was counted up to its mark. -/
structure Stocked (config : BucketConfig Rat) (now : Nat) (b : Bucket Rat) : Prop where
  config_eq : b.config = config
  permits_nonneg : 0 ≤ b.permits
  permits_le : b.permits ≤ config.burst
  mark_le : b.mark ≤ now

/-- The permits taken since `first`, with those that are left, came with the burst or with the
time. -/
def Covers (first taken : Nat) (b : Bucket Rat) : Prop :=
  taken = 0 ∨ first ≤ b.mark ∧
    taken + b.permits ≤ b.config.burst + b.config.rate * ofSpan (b.mark - first)

theorem stocked_full (config : BucketConfig Rat) (now : Nat) (hburst : 0 ≤ config.burst) :
    Stocked config now (full config now) :=
  ⟨rfl, hburst, le_refl _, Nat.le_refl _⟩

theorem Stocked.later (h : Stocked config now b) (htime : now ≤ time) : Stocked config time b :=
  ⟨h.config_eq, h.permits_nonneg, h.permits_le, Nat.le_trans h.mark_le htime⟩

/-- A refilled bucket holds at most what the time since its mark brought. -/
theorem Stocked.refilled (hrate : 0 < config.rate) (h : Stocked config now b) :
    Stocked config now (b.refilled now) ∧ (b.refilled now).mark = now ∧
      (b.refilled now).permits ≤ b.permits + config.rate * ofSpan (now - b.mark) := by
  obtain ⟨rfl, hnonneg, hburst, hmark⟩ := h
  by_cases hnew : b.mark < now
  · have helapsed : (0 : Rat) < ofSpan (now - b.mark) := ofSpan_pos.2 (Nat.sub_pos_of_lt hnew)
    have hbrought : 0 ≤ ofSpan (now - b.mark) * b.config.rate :=
      mul_nonneg (le_of_lt helapsed) (le_of_lt hrate)
    rw [refilled_of_lt hnew]
    refine ⟨⟨rfl, ?_, min_le_right _ _, Nat.le_refl _⟩, rfl, ?_⟩
    · -- the burst caps it, and it is not below zero before the cap
      exact le_min (by linarith) (le_trans hnonneg hburst)
    · rw [mul_comm b.config.rate]
      exact min_le_left _ _
  · -- no time has passed
    have hsame : b.mark = now := by omega
    rw [refilled_of_le (Nat.le_of_not_lt hnew)]
    refine ⟨⟨rfl, hnonneg, hburst, hmark⟩, hsame, ?_⟩
    have hbrought := rate_mul_ofSpan_nonneg hrate (now - b.mark)
    linarith

/-- Refilling a bucket keeps the account. -/
theorem Covers.refilled (hrate : 0 < config.rate) (h : Stocked config now b)
    (hcovers : b.Covers first taken) : (b.refilled now).Covers first taken := by
  rcases hcovers with hnone | ⟨hfirst, hcovered⟩
  · exact Or.inl hnone
  · obtain ⟨hstocked, hmark, hpermits⟩ := h.refilled hrate
    have hsum := ofSpan_sub_add hfirst h.mark_le
    rw [h.config_eq] at hcovered
    right
    rw [hmark, hstocked.config_eq]
    refine ⟨Nat.le_trans hfirst h.mark_le, ?_⟩
    calc (taken : Rat) + (b.refilled now).permits
        ≤ taken + b.permits + config.rate * ofSpan (now - b.mark) := by linarith
      _ ≤ config.burst + config.rate * ofSpan (b.mark - first)
            + config.rate * ofSpan (now - b.mark) := by linarith
      _ = config.burst + config.rate * ofSpan (now - first) := by
          rw [← hsum]
          ring

/-- A bucket with a rate gives a permit when it holds one after it was refilled. -/
theorem Stocked.ask_cases (hrate : 0 < config.rate) (h : Stocked config now b) :
    -- it is paused, has too little, or has a permit
    (∃ span, b.ask now = (.wait span, b)) ∨
    (∃ span, b.ask now = (.wait span, { b with blocked := none }.refilled now)) ∨
    (1 ≤ ({ b with blocked := none }.refilled now).permits ∧
      b.ask now = (.permit, { { b with blocked := none }.refilled now with
        permits := ({ b with blocked := none }.refilled now).permits - 1 })) := by
  have hlimited : ¬ leq b.config.rate zero = true := by
    rw [leq_iff, h.config_eq, zero_eq]
    exact not_le.2 hrate
  rw [ask]
  cases b.pauseLeft now with
  | some span => exact Or.inl ⟨span, rfl⟩
  | none =>
    dsimp only
    rw [take, if_neg hlimited]
    by_cases hone : leq one ({ b with blocked := none }.refilled now).permits = true
    · right
      right
      exact ⟨leq_iff.1 hone, if_pos hone⟩
    · right
      left
      exact ⟨_, if_neg hone⟩

/-- A permit moves from the bucket to those that were taken. -/
theorem Covers.take (hrate : 0 < config.rate) (h : Stocked config now b) (hmark : b.mark = now)
    (hcovers : b.Covers first taken) :
    { b with permits := b.permits - 1 }.Covers first (taken + if first ≤ now then 1 else 0) := by
  by_cases hfirst : first ≤ now
  · rw [if_pos hfirst]
    right
    refine ⟨hmark ▸ hfirst, ?_⟩
    dsimp only
    rw [Nat.cast_add, Nat.cast_one]
    rcases hcovers with hnone | ⟨_, hcovered⟩
    · -- the first one of the window comes out of what the burst allows
      have hbrought : 0 ≤ b.config.rate * ofSpan (b.mark - first) := by
        rw [h.config_eq]
        exact rate_mul_ofSpan_nonneg hrate _
      have hburst := h.permits_le
      rw [← h.config_eq] at hburst
      rw [hnone, Nat.cast_zero]
      linarith
    · linarith
  · -- a permit before the window does not count
    rw [if_neg hfirst]
    rcases hcovers with hnone | ⟨hstarted, _⟩
    · exact Or.inl hnone
    · omega

/-- What a visit does to the stock and to the account since any time. -/
theorem Stocked.touches {deed : Limiter.Deed} (hrate : 0 < config.rate) (h : Stocked config now b)
    (htouches : b.Touches now deed b') :
    Stocked config now b' ∧ ∀ first taken, b.Covers first taken →
      b'.Covers first (taken + if deed.permit? = some true ∧ first ≤ now then 1 else 0) := by
  have hopen : Stocked config now { b with blocked := none } :=
    ⟨h.config_eq, h.permits_nonneg, h.permits_le, h.mark_le⟩
  obtain ⟨hstocked, hmark, _⟩ := hopen.refilled hrate
  cases htouches with
  | granted hdeed hask =>
    -- it was not sent away, so the permit came out of the stock
    rcases h.ask_cases hrate with ⟨_, hwait⟩ | ⟨_, hwait⟩ | ⟨hone, hpermit⟩
    · cases hask.symm.trans hwait
    · cases hask.symm.trans hwait
    · cases hask.symm.trans hpermit
      refine ⟨⟨hstocked.config_eq, by linarith, ?_, hstocked.mark_le⟩, ?_⟩
      · have hburst := hstocked.permits_le
        linarith
      · intro first taken hcovers
        have hrefilled : ({ b with blocked := none }.refilled now).Covers first taken :=
          Covers.refilled hrate hopen hcovers
        simp only [hdeed, true_and]
        exact hrefilled.take hrate hstocked hmark
  | denied hdeed hask =>
    simp only [hdeed, Option.some.injEq, Bool.false_eq_true, false_and, if_false, Nat.add_zero]
    rcases h.ask_cases hrate with ⟨_, hwait⟩ | ⟨_, hwait⟩ | ⟨_, hpermit⟩
    · cases hask.symm.trans hwait
      exact ⟨h, fun _ _ hcovers => hcovers⟩
    · cases hask.symm.trans hwait
      exact ⟨hstocked, fun _ _ hcovers => Covers.refilled hrate hopen hcovers⟩
    · -- nothing was given
      cases hask.symm.trans hpermit
  | paused span =>
    exact ⟨⟨h.config_eq, h.permits_nonneg, h.permits_le, h.mark_le⟩, fun _ _ hcovers => hcovers⟩
  | viewed =>
    have hlimited : less zero b.config.rate = true := by
      rw [less_iff, h.config_eq]
      exact hrate
    rw [view_snd, if_pos hlimited]
    exact ⟨(h.refilled hrate).1, fun _ _ hcovers => hcovers.refilled hrate h⟩
  | untimed => exact ⟨h, fun _ _ hcovers => hcovers⟩

end Bucket

/-! ## Windows of a history -/

namespace Limiter.Traffic

/-- The permits granted from `first` to `last`. -/
def permits (history : List Visit) (first last : Nat) : Nat :=
  history.countP fun visit => visit.grants && (first ≤ visit.time && visit.time ≤ last)

/-- The permits granted from `first` on. -/
def permitsSince (history : List Visit) (first : Nat) : Nat :=
  history.countP fun visit => visit.grants && first ≤ visit.time

theorem permits_le_permitsSince (history : List Visit) (first last : Nat) :
    permits history first last ≤ permitsSince history first := by
  refine List.countP_mono_left ?_
  intro visit _ hvisit
  simp only [Bool.and_eq_true] at hvisit ⊢
  exact ⟨hvisit.1, hvisit.2.1⟩

/-- A visit after the window leaves its permits. -/
theorem permits_snoc_of_lt {history : List Visit} {visit : Visit} {first last : Nat}
    (h : last < visit.time) :
    permits (history ++ [visit]) first last = permits history first last := by
  have hlate : ¬ visit.time ≤ last := Nat.not_le_of_lt h
  rw [permits, List.countP_append, List.countP_singleton]
  simp [hlate, permits]

theorem permitsSince_snoc (history : List Visit) (visit : Visit) (first : Nat) :
    permitsSince (history ++ [visit]) first = permitsSince history first
      + if visit.deed.permit? = some true ∧ first ≤ visit.time then 1 else 0 := by
  rw [permitsSince, List.countP_append, List.countP_singleton]
  simp [permitsSince, Visit.grants]

variable {config : BucketConfig Rat} {label : String} {start : Nat} {history : List Visit}
  {s : Traffic Rat}

/-- A run of visits keeps the stock, the accounts, and the bound of every window. -/
theorem Run.supply (hrate : 0 < config.rate) (hburst : 0 ≤ config.burst)
    (hrun : (opened label config start).Run history s) :
    Bucket.Stocked config s.now s.limiter.bucket ∧
      (∀ first, s.limiter.bucket.Covers first (permitsSince history first)) ∧
      ∀ first last, (permits history first last : Rat)
        ≤ config.burst + config.rate * ofSpan (last - first) := by
  induction hrun with
  | nil =>
    refine ⟨Bucket.stocked_full config start hburst, fun _ => Or.inl rfl, ?_⟩
    intro first last
    have hbrought := rate_mul_ofSpan_nonneg hrate (last - first)
    show ((0 : Nat) : Rat) ≤ _
    rw [Nat.cast_zero]
    linarith
  | @snoc history visit t u _ hstep ih =>
    obtain ⟨hstocked, hcovers, hwindows⟩ := ih
    obtain ⟨hnow, htime, htouches⟩ := hstep.touches
    obtain ⟨hstocked', hkept⟩ := (hstocked.later hnow).touches hrate htouches
    have hcovers' : ∀ first,
        u.limiter.bucket.Covers first (permitsSince (history ++ [visit]) first) := by
      intro first
      rw [permitsSince_snoc]
      exact hkept first _ (hcovers first)
    refine ⟨htime ▸ hstocked', hcovers', ?_⟩
    intro first last
    by_cases hlast : last < visit.time
    · rw [permits_snoc_of_lt hlast]
      exact hwindows first last
    · -- all of the history lies before the end of the window, so the account says it all
      have hle : (permits (history ++ [visit]) first last : Rat)
          ≤ permitsSince (history ++ [visit]) first :=
        Nat.cast_le.2 (permits_le_permitsSince _ first last)
      have hbrought := rate_mul_ofSpan_nonneg hrate (last - first)
      rcases hcovers' first with hnone | ⟨_, hcovered⟩
      · rw [hnone, Nat.cast_zero] at hle
        linarith
      · have hmark : u.limiter.bucket.mark - first ≤ last - first := by
          have := hstocked'.mark_le
          omega
        have hmore : config.rate * ofSpan (u.limiter.bucket.mark - first)
            ≤ config.rate * ofSpan (last - first) :=
          mul_le_mul_of_nonneg_left (ofSpan_mono hmark) (le_of_lt hrate)
        have hleft := hstocked'.permits_nonneg
        rw [hstocked'.config_eq] at hcovered
        linarith

/-- In any window of time a limiter gives no more permits than its burst and what its rate brings in
that time, and it never holds less than nothing or more than its burst. -/
theorem permits_le (hrate : 0 < config.rate) (hburst : 0 ≤ config.burst)
    (hrun : (opened label config start).Run history s) (first last : Nat) :
    (permits history first last : Rat) ≤ config.burst + config.rate * ofSpan (last - first) ∧
      0 ≤ s.limiter.bucket.permits ∧ s.limiter.bucket.permits ≤ config.burst := by
  obtain ⟨hstocked, _, hwindows⟩ := hrun.supply hrate hburst
  exact ⟨hwindows first last, hstocked.permits_nonneg, hstocked.permits_le⟩

/-- Two permits a second, and three at once. -/
def twoASecond : BucketConfig Rat := { rate := 2, burst := 3 }

open Time.Span in
/-- Callers who ask as soon as they may get all that the window allows, though the limiter was
paused. -/
theorem permits_le_tight : ∃ history s, 0 < twoASecond.rate ∧ 0 ≤ twoASecond.burst ∧
    (opened "api" twoASecond 0).Run history s ∧ permits history 0 (ofMillis 1000) = 5 ∧
      twoASecond.burst + twoASecond.rate * ofSpan (ofMillis 1000) = 5 ∧
      (permits history 0 (ofMillis 1000) : Rat)
        ≤ twoASecond.burst + twoASecond.rate * ofSpan (ofMillis 1000 - 0) ∧
      0 ≤ s.limiter.bucket.permits ∧ s.limiter.bucket.permits ≤ twoASecond.burst := by
  have hrate : 0 < twoASecond.rate := by decide +kernel
  have hburst : 0 ≤ twoASecond.burst := by decide +kernel
  have hrun : ∃ history s, (opened "api" twoASecond 0).Run history s ∧
      permits history 0 (ofMillis 1000) = 5 := by
    refine ⟨_, _, .snoc (.snoc (.snoc (.snoc (.snoc (.snoc (.snoc (.snoc (.snoc .nil
      (.tryAcquire 0 (by decide)))
      (.acquire 0 (by decide)))
      (.acquire 0 (by decide)))
      (.acquire 0 (by decide)))
      (.pauseFor (ofMillis 100) (ofMillis 200) (by decide)))
      (.view (ofMillis 150) (by decide)))
      (.wake (ofMillis 500) 0 (ofMillis 500) ⟨none⟩ (by decide) (by decide +kernel) (by decide)))
      (.acquire (ofMillis 700) (by decide)))
      (.wake (ofMillis 1000) 0 (ofMillis 1000) ⟨none⟩ (by decide) (by decide +kernel) (by decide)),
      ?_⟩
    decide +kernel
  obtain ⟨history, s, hrun, hpermits⟩ := hrun
  exact ⟨history, s, hrate, hburst, hrun, hpermits, by decide +kernel,
    permits_le hrate hburst hrun 0 (ofMillis 1000)⟩

end Limiter.Traffic

end Precis
