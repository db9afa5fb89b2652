import Precis.Proofs.Decimal.Operations
import Precis.Proofs.Rate.Deadline
import Precis.Proofs.Rate.Pause
import Precis.Rate.Destinations

/-!
# Buckets of doubles

The buckets that run count their permits in doubles. Whatever is done with such a bucket, what it
holds is a number that is not negative, never infinity and never no number at all (`Bucket.Sound`),
because the burst caps what the roundings make of it.

So the wait that a caller is told is a number too, rounded to whole nanoseconds. It is rounded to
nothing when the next permit is at most half a nanosecond away (`Bucket.Imminent`), and only then
(`Bucket.Sound.ask`). The bucket has no permit all the same, and nothing more comes in before time
goes on (`Bucket.Sound.ask_of_imminent`). The bucket of every tier is sound
(`TierLimits.sound_bucket`).
-/

namespace Precis

open Decimal Time

/-! ## Spans -/

/-- At most half a nanosecond is no time. -/
theorem Time.Span.ofFloat_eq_zero_iff {x : Float} (h : Unsigned x) :
    Span.ofFloat x = 0 ↔ number x ≤ 1 / 2000000000 := by
  unfold Span.ofFloat
  by_cases hpos : 0 < x
  · have hbits : x.toBits.toNat % Nat.pow 2 63 = x.toBits.toNat :=
      Nat.mod_eq_of_lt (Nat.lt_of_le_of_lt h (by decide))
    rw [if_pos hpos, hbits, number]
    generalize binaryOfBits x.toBits.toNat = b
    have hunit : (0 : Rat) < 2 ^ (-b.exponent).toNat := by positivity
    have hround := roundDiv_eq_zero_iff (b.mantissa * 1000000000 * Nat.pow 2 b.exponent.toNat)
      (Nat.two_pow_pos (-b.exponent).toNat)
    refine hround.trans ?_
    rw [Binary.value, zpow_eq_div, ← mul_div_assoc, div_le_div_iff₀ hunit (by norm_num), one_mul]
    show 2 * (b.mantissa * 1000000000 * 2 ^ b.exponent.toNat) ≤ 2 ^ (-b.exponent).toNat ↔ _
    have hdouble : 2 * (b.mantissa * 1000000000 * 2 ^ b.exponent.toNat)
        = b.mantissa * 2 ^ b.exponent.toNat * 2000000000 := by ring
    rw [hdouble]
    exact_mod_cast Iff.rfl
  · have hzero : x.toBits.toNat = 0 := by
      by_contra hne
      exact hpos ((zero_lt_iff x).2 ⟨Nat.pos_of_ne_zero hne, h⟩)
    rw [if_neg hpos, number_eq_zero hzero]
    exact iff_of_true rfl (by norm_num)

namespace Bucket

/-! ## What a bucket holds -/

/-- The rate, the burst and the permits are numbers, and the rate is above zero. -/
structure Sound (b : Bucket Float) : Prop where
  rate : Proper b.config.rate
  burst : Definite b.config.burst
  permits : Definite b.permits

/-- The bucket has no permit and no pause, and the next permit is so near that the wait for it is at
most half a nanosecond. -/
structure Imminent (b : Bucket Float) : Prop where
  blocked_eq : b.blocked = none
  permits_lt : number b.permits < 1
  wait_le : number ((1 - b.permits) / b.config.rate) ≤ 1 / 2000000000

variable {b b' : Bucket Float} {now : Nat}

/-- The burst caps what comes in, were it infinite. -/
theorem Sound.refilled (h : b.Sound) (now : Nat) : (b.refilled now).Sound := by
  unfold Bucket.refilled
  dsimp only
  split
  · rename_i hpassed
    have helapsed : Unsigned (Quantity.ofSpan (now - b.mark)) :=
      ((zero_lt_iff _).1 (of_decide_eq_true hpassed)).2
    have hsum := h.permits.unsigned.add (helapsed.mul h.rate)
    refine ⟨h.rate, h.burst, ?_⟩
    -- the sum may be infinite, and then the burst is the smaller one
    show Definite (least _ _)
    unfold least
    split
    · rename_i hfits
      exact hsum.definite_of_le h.burst (of_decide_eq_true hfits)
    · exact h.burst
  · exact h

theorem Sound.unblocked (h : b.Sound) (blocked : Option Nat) : { b with blocked }.Sound :=
  ⟨h.rate, h.burst, h.permits⟩

theorem Sound.one_leq_iff (h : b.Sound) :
    Quantity.leq Quantity.one b.permits = true ↔ 1 ≤ number b.permits := by
  have hle := proper_one.definite.le_iff h.permits
  rw [number_one] at hle
  exact decide_eq_true_iff.trans hle

/-- Half a nanosecond before the next permit a caller is told to wait for no time. -/
theorem Sound.toSpan_eq_zero_iff (h : b.Sound) (hpermits : number b.permits < 1) :
    Quantity.toSpan ((1 - b.permits) / b.config.rate) = 0 ↔
      number ((1 - b.permits) / b.config.rate) ≤ 1 / 2000000000 := by
  have hle : number b.permits ≤ number 1 := number_one ▸ le_of_lt hpermits
  exact Span.ofFloat_eq_zero_iff (.div (proper_one.definite.sub h.permits hle) h.rate)

theorem Sound.take (h : b.Sound) {grant : Grant} (hopen : b.blocked = none)
    (htake : b.take now = (grant, b')) :
    b'.Sound ∧ ∀ span, grant = .wait span → (span = 0 ↔ b'.Imminent) := by
  unfold Bucket.take at htake
  dsimp only at htake
  have hrefilled := h.refilled now
  split at htake
  · cases htake
    exact ⟨h, by simp⟩
  split at htake
  · rename_i hone
    cases htake
    have hle := number_one.symm ▸ hrefilled.one_leq_iff.1 hone
    exact ⟨⟨hrefilled.rate, hrefilled.burst, hrefilled.permits.sub proper_one.definite hle⟩,
      by simp⟩
  · rename_i hnone
    cases htake
    have hpermits := not_le.1 (fun hle => hnone (hrefilled.one_leq_iff.2 hle))
    refine ⟨hrefilled, ?_⟩
    rintro span ⟨⟩
    refine (hrefilled.toSpan_eq_zero_iff hpermits).trans ⟨?_, Imminent.wait_le⟩
    exact fun hwait => ⟨(blocked_refilled b now).trans hopen, hpermits, hwait⟩

/-- A pause that is on is not over yet. -/
theorem blocked_of_pauseLeft {left : Nat} (h : b.pauseLeft now = some left) :
    0 < left ∧ b.blocked ≠ none := by
  rw [pauseLeft] at h
  cases hblocked : b.blocked with
  | none => simp [hblocked] at h
  | some last =>
    rw [hblocked] at h
    dsimp only at h
    split at h
    · cases h
      exact ⟨by omega, by simp⟩
    · cases h

/-- A caller is told to wait for no time when the next permit is imminent, and only then. -/
theorem Sound.ask (h : b.Sound) {grant : Grant} (hask : b.ask now = (grant, b')) :
    b'.Sound ∧ ∀ span, grant = .wait span → (span = 0 ↔ b'.Imminent) := by
  rw [Bucket.ask] at hask
  cases hpause : b.pauseLeft now with
  | none =>
    rw [hpause] at hask
    exact (h.unblocked none).take rfl hask
  | some left =>
    rw [hpause] at hask
    cases hask
    refine ⟨h, ?_⟩
    rintro span ⟨⟩
    -- a pause that is on has time left, and a bucket with a pause has no imminent permit
    obtain ⟨hleft, hblocked⟩ := blocked_of_pauseLeft hpause
    exact iff_of_false (Nat.ne_of_gt hleft) fun himminent => hblocked himminent.blocked_eq

/-- Who asks for an imminent permit at the time of the last refill changes nothing by it. -/
theorem Sound.ask_of_imminent (h : b.Sound) (himminent : b.Imminent) (hmark : now ≤ b.mark) :
    b.ask now = (.wait 0, b) := by
  have hpause : b.pauseLeft now = none := by rw [pauseLeft, himminent.blocked_eq]
  have hblocked : { b with blocked := none } = b := by rw [← himminent.blocked_eq]
  have hrate : ¬ Quantity.leq b.config.rate Quantity.zero = true := by
    intro hle
    have hzero :=
      (h.rate.definite.le_iff (y := 0) (by unfold Definite; decide)).1 (of_decide_eq_true hle)
    rw [number_eq_zero (x := 0) (by decide)] at hzero
    exact not_lt.2 hzero h.rate.number_pos
  have hrefilled : b.refilled now = b := by
    rw [Bucket.refilled, Nat.sub_eq_zero_of_le hmark]
    exact if_neg (by decide +kernel)
  have hnone : ¬ Quantity.leq Quantity.one b.permits = true := fun hone =>
    not_lt.2 (h.one_leq_iff.1 hone) himminent.permits_lt
  rw [Bucket.ask, hpause]
  dsimp only
  rw [hblocked, Bucket.take, if_neg hrate, hrefilled]
  dsimp only
  rw [if_neg hnone]
  exact congrArg (fun span => (Grant.wait span, b))
    ((h.toSpan_eq_zero_iff himminent.permits_lt).2 himminent.wait_le)

/-- Whatever is done with a bucket, what it holds stays a number. -/
theorem Sound.touches (h : b.Sound) {deed : Limiter.Deed} (htouches : b.Touches now deed b') :
    b'.Sound := by
  cases htouches with
  | granted _ hask => exact (h.ask hask).1
  | denied _ hask => exact (h.ask hask).1
  | paused span => exact h.unblocked _
  | viewed =>
    rw [view_snd]
    split
    · exact h.refilled now
    · exact h
  | untimed => exact h

end Bucket

/-! ## The buckets of tiers -/

theorem Time.Span.rounds_ofSeconds {n : Nat} (h : n ≤ 2 ^ 64) :
    Rounds n (Span.toFloat (Span.ofSeconds n)).toBits.toNat := by
  have hsplit : Span.toFloat (Span.ofSeconds n) = Float.ofNat n + Float.ofNat 0 / 1000000000 := by
    rw [Span.toFloat, Span.ofSeconds, Nat.mul_div_cancel _ (by decide), Nat.mul_mod_left]
  have hzero : (Float.ofNat 0 / 1000000000 : Float).toBits.toNat = 0 := by decide +kernel
  have hdefinite := definite_floatOfNat h
  have hsum :=
    rounds_add (y := Float.ofNat 0 / 1000000000) hdefinite (by rw [Definite, hzero]; decide)
  rw [number_eq_zero hzero, add_zero, ← hsplit] at hsum
  exact (rounds_value hdefinite.unsigned).unique hsum ▸ rounds_floatOfNat n

/-- So many permits in so many seconds are a rate. -/
theorem BucketConfig.proper_rate {permits : UInt32} {seconds : UInt64} {config : BucketConfig Float}
    (h : ofPeriod? permits (Span.ofSeconds seconds.toNat) = some config) :
    Proper config.rate ∧ Definite config.burst := by
  unfold ofPeriod? at h
  dsimp only at h
  split at h
  · cases h
  rename_i hvalid
  cases h
  rw [Bool.or_eq_true, not_or, decide_eq_true_iff, decide_eq_true_iff] at hvalid
  have hpermits : 0 < permits.toNat :=
    Nat.pos_of_ne_zero fun hzero => hvalid.1 (UInt32.toNat_inj.1 hzero)
  have hseconds : 0 < seconds.toNat := by
    refine Nat.pos_of_ne_zero ?_
    intro hzero
    rw [hzero] at hvalid
    exact hvalid.2 (by decide +kernel)
  have hword : permits.toNat ≤ 2 ^ 64 := Nat.le_trans (Nat.le_of_lt permits.toNat_lt) (by decide)
  have hword' : seconds.toNat ≤ 2 ^ 64 := Nat.le_of_lt seconds.toNat_lt
  -- both doubles lie between 1 and 2 ^ 65, so their quotient is far from zero and from infinity
  obtain ⟨hn, hn1, hn65⟩ := proper_of_rounds (rounds_floatOfNat _) hpermits hword
  obtain ⟨hs, hs1, hs65⟩ := proper_of_rounds (Span.rounds_ofSeconds hword') hseconds hword'
  have hrounds := rounds_div hn.definite hs
  have hpos := hs.number_pos
  refine ⟨⟨hrounds.pos ?_, hrounds.lt_infinityBits ?_⟩, hn.definite⟩
  · rw [le_div_iff₀ hpos]
    calc (2 : Rat) ^ (-1000 : Int) * number (Span.toFloat (Span.ofSeconds seconds.toNat))
        ≤ 2 ^ (-1000 : Int) * 2 ^ (65 : Int) := mul_le_mul_of_nonneg_left hs65 (by positivity)
      _ ≤ 1 := by
        rw [← zpow_add₀ (by norm_num)]; exact zpow_le_one_of_nonpos₀ (by norm_num) (by decide)
      _ ≤ _ := hn1
  · rw [div_le_iff₀ hpos]
    calc number (Float.ofNat permits.toNat) ≤ 2 ^ (65 : Int) := hn65
      _ ≤ 2 ^ (1000 : Int) := zpow_le_zpow_right₀ (by norm_num) (by decide)
      _ ≤ 2 ^ (1000 : Int) * _ := le_mul_of_one_le_right (by positivity) hs1

/-- The bucket of a tier is sound, also when its limits describe no rate. -/
theorem TierLimits.sound_bucket (t : TierLimits) (now : Nat) :
    (Bucket.full t.bucket now).Sound := by
  unfold TierLimits.bucket
  cases hconfig : BucketConfig.ofPeriod? t.calls (Span.ofSeconds t.periodSeconds.toNat) with
  | none => exact ⟨proper_one, proper_one.definite, proper_one.definite⟩
  | some config =>
    obtain ⟨hrate, hburst⟩ := BucketConfig.proper_rate hconfig
    exact ⟨hrate, hburst, hburst⟩

end Precis
