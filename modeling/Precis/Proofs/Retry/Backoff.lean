import Mathlib.Algebra.Order.Ring.Nat
import Mathlib.Algebra.Ring.Int.Defs
import Precis.Proofs.Time.Delay
import Precis.Retry.Entry

/-!
# The schedule of retries

The n-th retry of an entry waits for the base delay times `2 ^ n`, in unbounded numbers, as long as
that power fits a 32-bit word; from the 32nd retry on the factor stays at the largest word. So the
time of the next retry moves on with each of the first retries, but later only with the clock:
`backoff_exact` says when, and `backoff_stalls` has an entry that is put off twice to the same
moment.

The argument is that the factor grows as long as there were fewer than 32 retries
(`factor_lt_factor_iff`), and that a delay is added without loss up to the last timestamp.
-/

namespace Precis

open Time

namespace RetryEntry

/-! ## The factor -/

/-- The power of two, as far as it fits a 32-bit word. -/
theorem factor_eq (n : UInt32) : factor n = min (2 ^ n.toNat) 4294967295 := by
  rw [factor]
  split
  · rename_i h
    have hle : 2 ^ n.toNat ≤ 2 ^ 31 := Nat.pow_le_pow_right (by decide) (by omega)
    show 2 ^ n.toNat = _
    omega
  · rename_i h
    have hle : 2 ^ 32 ≤ 2 ^ n.toNat := Nat.pow_le_pow_right (by decide) (by omega)
    omega

/-- The factor grows until there were 32 retries. -/
theorem factor_lt_factor_iff {m n : UInt32} (h : m < n) : factor m < factor n ↔ m.toNat < 32 := by
  have hlt := UInt32.lt_iff_toNat_lt.1 h
  rw [factor_eq, factor_eq]
  constructor
  · intro hfactor
    apply Nat.lt_of_not_le
    intro hmany
    have hle : 2 ^ 32 ≤ 2 ^ m.toNat := Nat.pow_le_pow_right (by decide) hmany
    omega
  · intro hfew
    have hsmall : 2 ^ m.toNat ≤ 2 ^ 31 := Nat.pow_le_pow_right (by decide) (by omega)
    have hpow : 2 ^ m.toNat < 2 ^ n.toNat := Nat.pow_lt_pow_right (by decide) hlt
    omega

/-- After 32 retries the factor is the largest word. -/
theorem factor_of_le {n : UInt32} (h : 32 ≤ n.toNat) : factor n = 4294967295 := by
  have hle : 2 ^ 32 ≤ 2 ^ n.toNat := Nat.pow_le_pow_right (by decide) h
  rw [factor_eq]
  omega

/-! ## One retry after another -/

variable {e e' : RetryEntry} {base : Nat} {now time : Timestamp}

/-- The time of the next retry, in unbounded numbers up to the last timestamp. -/
theorem count_next_retried (e : RetryEntry) (base : Nat) (hnow : now.isLeapSecond = false) :
    (e.retried base now).next.isLeapSecond = false ∧
      (e.retried base now).next.count
        = min (now.count + (base * factor (e.retried base now).retries : Nat))
            Timestamp.latest.count :=
  Timestamp.count_add hnow _

/-- A retry with more retries made before, at a time not before, is put off further just when the
factor has grown or the clock has moved on, unless it was put off to the end of time. -/
theorem next_lt_next_iff (hbase : 0 < base) (hnow : now.isLeapSecond = false)
    (htime : time.isLeapSecond = false) (hclock : ¬ time < now)
    (hretries : (e.retried base now).retries < (e'.retried base time).retries ∨
      (e.retried base now).retries = (e'.retried base time).retries ∧
        32 ≤ (e.retried base now).retries.toNat) :
    (e.retried base now).next < (e'.retried base time).next ↔
      (e.retried base now).next ≠ Timestamp.latest ∧
        ((e.retried base now).retries.toNat < 32 ∨ now < time) := by
  obtain ⟨hleap, hcount⟩ := count_next_retried e base hnow
  obtain ⟨hleap', hcount'⟩ := count_next_retried e' base htime
  have hend : Timestamp.latest.isLeapSecond = false := rfl
  rw [Timestamp.lt_iff_count_lt hleap hleap', Ne, Timestamp.eq_iff_count_eq hleap hend,
    Timestamp.lt_iff_count_lt hnow htime, hcount, hcount']
  rw [Timestamp.lt_iff_count_lt htime hnow] at hclock
  generalize (e.retried base now).retries = m at hretries ⊢
  generalize (e'.retried base time).retries = n at hretries ⊢
  by_cases hfew : m.toNat < 32
  · -- the factor has grown, and the time with it
    have hlt : m < n := by
      rcases hretries with hlt | ⟨_, hmany⟩
      · exact hlt
      · omega
    have hdelay : base * factor m < base * factor n :=
      Nat.mul_lt_mul_of_pos_left ((factor_lt_factor_iff hlt).2 hfew) hbase
    omega
  · -- the factor stays, so the clock alone decides
    have hmany : 32 ≤ n.toNat := by
      rcases hretries with hlt | ⟨rfl, hmany⟩
      · have hlt := UInt32.lt_iff_toNat_lt.1 hlt
        omega
      · exact hmany
    have hfactor : factor m = factor n := by
      rw [factor_of_le (Nat.le_of_not_lt hfew), factor_of_le hmany]
    rw [hfactor]
    omega

/-! ## Retries in a row -/

/-- The entry after a retry at each of these times. -/
def retriedAt (e : RetryEntry) (base : Nat) (times : List Timestamp) : RetryEntry :=
  times.foldl (fun e now => e.retried base now) e

theorem retriedAt_concat (e : RetryEntry) (base : Nat) (times : List Timestamp) (now : Timestamp) :
    e.retriedAt base (times ++ [now]) = (e.retriedAt base times).retried base now := by
  rw [retriedAt, List.foldl_append]
  rfl

/-- Retries are counted up to the largest 32-bit word. -/
theorem toNat_retries_retriedAt (e : RetryEntry) (base : Nat) (times : List Timestamp) :
    (e.retriedAt base times).retries.toNat = min (e.retries.toNat + times.length) 4294967295 := by
  induction times generalizing e with
  | nil =>
    have hlt := e.retries.toNat_lt
    show e.retries.toNat = min (e.retries.toNat + 0) 4294967295
    omega
  | cons now rest ih =>
    have hstep : (e.retried base now).retries.toNat = min (e.retries.toNat + 1) 4294967295 :=
      Word.toNat_clamp32 _
    have hrest := ih (e.retried base now)
    show ((e.retried base now).retriedAt base rest).retries.toNat = _
    rw [hrest, hstep, List.length_cons]
    omega

/-- After any retries of any entry, the next one is due the base delay times the power of two after
the latest one, as far as that power fits a 32-bit word, in unbounded numbers up to the last
timestamp. A further retry, however many come in between, puts it off further just when there were
fewer than 32 retries or the clock has moved on, unless the end of time was reached. -/
theorem backoff_exact (e : RetryEntry) (base : Nat) (past : List Timestamp) {now : Timestamp}
    (hnow : now.isLeapSecond = false) :
    (e.retriedAt base (past ++ [now])).retries.toNat
        = min (e.retries.toNat + past.length + 1) 4294967295 ∧
      (e.retriedAt base (past ++ [now])).next.count
        = min (now.count
              + (base
                * min (2 ^ (e.retriedAt base (past ++ [now])).retries.toNat) 4294967295 : Nat))
            Timestamp.latest.count ∧
      (0 < base → ∀ more time, time.isLeapSecond = false → ¬ time < now →
        ((e.retriedAt base (past ++ [now])).next
            < (e.retriedAt base (past ++ [now] ++ more ++ [time])).next ↔
          (e.retriedAt base (past ++ [now])).next ≠ Timestamp.latest ∧
            ((e.retriedAt base (past ++ [now])).retries.toNat < 32 ∨ now < time))) := by
  have hretries := toNat_retries_retriedAt e base (past ++ [now])
  rw [List.length_append, List.length_singleton, ← Nat.add_assoc] at hretries
  refine ⟨hretries, ?_, ?_⟩
  · rw [retriedAt_concat, ← factor_eq]
    exact (count_next_retried _ base hnow).2
  · intro hbase more time htime hclock
    have hretries' := toNat_retries_retriedAt e base (past ++ [now] ++ more ++ [time])
    simp only [List.length_append, List.length_singleton] at hretries'
    rw [retriedAt_concat] at hretries hretries' ⊢
    rw [retriedAt_concat]
    apply next_lt_next_iff hbase hnow htime hclock
    -- one more was counted, or both counts stand at the largest word
    rw [UInt32.lt_iff_toNat_lt, ← UInt32.toNat_inj]
    omega

/-! ## Retries in one moment -/

namespace Stalled

/-- A post that came late. -/
def entry : RetryEntry := .new 1 "late" .timeout 100 (Span.ofSeconds 1) .epoch

/-- After so many retries in one moment, with a second as the base delay. -/
def after (n : Nat) : RetryEntry := entry.retriedAt (Span.ofSeconds 1) (List.replicate n .epoch)

end Stalled

open Stalled in
/-- The fifth retry waits for 32 seconds, and the sixth one longer. -/
theorem backoff_exact_early :
    Timestamp.epoch.isLeapSecond = false ∧ (after 5).retries.toNat = 5 ∧
      (after 5).next.count = 32 * 1000000000 ∧ (after 5).next < (after 6).next := by
  have hleap : Timestamp.epoch.isLeapSecond = false := rfl
  obtain ⟨hretries, hcount, hlater⟩ :=
    backoff_exact entry (Span.ofSeconds 1) (List.replicate 4 .epoch) hleap
  have hend : (after 5).next ≠ Timestamp.latest := by decide +kernel
  have hfew : (after 5).retries.toNat < 32 := by decide +kernel
  refine ⟨hleap, hretries, hcount, ?_⟩
  exact (hlater (by decide) [] .epoch hleap (by decide)).2 ⟨hend, Or.inl hfew⟩

open Stalled in
/-- The 32nd retry waits for a second less than `2 ^ 32`, long before the end of time; and a retry
after it is due at the same moment. -/
theorem backoff_stalls :
    (after 32).retries.toNat = 32 ∧
      (after 32).next.count = Timestamp.epoch.count + (2 ^ 32 - 1) * 1000000000 ∧
      (after 32).next.count
        ≠ min (Timestamp.epoch.count + 2 ^ 32 * 1000000000) Timestamp.latest.count ∧
      (after 33).retries.toNat = 33 ∧ (after 33).next = (after 32).next ∧
      (after 32).next < Timestamp.latest := by decide +kernel

end RetryEntry

end Precis
