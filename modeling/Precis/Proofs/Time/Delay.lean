import Precis.Time.Timestamp

/-!
# Adding a delay

Outside leap seconds a timestamp is a number of nanoseconds since 1970 (`Timestamp.count`), and the
order of timestamps is the order of these numbers. A delay that is added to such a timestamp is
added to its number, up to the number of the last timestamp: `count_add`.
-/

namespace Precis.Time.Timestamp

/-- Nanoseconds since the start of 1970, for timestamps outside leap seconds. -/
def count (t : Timestamp) : Int := t.seconds * nanosPerSecond + t.nanos

variable {a b t : Timestamp}

theorem nanos_lt (h : t.isLeapSecond = false) : t.nanos < nanosPerSecond := by
  rw [isLeapSecond, decide_eq_false_iff_not] at h
  exact Nat.lt_of_not_le h

theorem lt_iff_count_lt (ha : a.isLeapSecond = false) (hb : b.isLeapSecond = false) :
    a < b ↔ a.count < b.count := by
  have hnanos := nanos_lt ha
  have hnanos' := nanos_lt hb
  rw [lt_iff, count, count]
  simp only [nanosPerSecond] at hnanos hnanos' ⊢
  omega

theorem eq_iff_count_eq (ha : a.isLeapSecond = false) (hb : b.isLeapSecond = false) :
    a = b ↔ a.count = b.count := by
  have hnanos := nanos_lt ha
  have hnanos' := nanos_lt hb
  rw [Timestamp.ext_iff, count, count]
  simp only [nanosPerSecond] at hnanos hnanos' ⊢
  omega

/-- No timestamp outside leap seconds comes after the last one. -/
theorem count_le_latest (h : t.isLeapSecond = false) : t.count ≤ latest.count := by
  have hnanos := nanos_lt h
  have hlast := t.inRange.2
  simp only [count, latest, lastSecond, nanosPerSecond] at hnanos hlast ⊢
  omega

/-- Seconds and nanoseconds that are in range make a timestamp, and others make none. -/
theorem ofParts?_of_lt {seconds : Int} {nanos : Nat} (hfirst : firstSecond ≤ seconds)
    (hnanos : nanos < nanosPerSecond) :
    (∃ t, ofParts? seconds nanos = some t ∧ seconds ≤ lastSecond ∧ t.isLeapSecond = false ∧
        t.count = seconds * nanosPerSecond + nanos) ∨
      ofParts? seconds nanos = none ∧ lastSecond < seconds := by
  rw [ofParts?]
  split
  · rename_i h
    left
    refine ⟨_, rfl, h.1.2, ?_, rfl⟩
    rw [isLeapSecond, decide_eq_false_iff_not]
    exact Nat.not_le_of_lt hnanos
  · rename_i h
    right
    refine ⟨rfl, ?_⟩
    -- all that can be wrong with such parts is that they lie beyond the end
    apply Int.lt_of_not_ge
    intro hlast
    exact h ⟨⟨hfirst, hlast⟩, Or.inl hnanos⟩

/-- A delay is added in unbounded numbers, and ends at the last timestamp when it leads beyond
it. -/
theorem count_add (h : t.isLeapSecond = false) (delay : Nat) :
    (t.add delay).isLeapSecond = false ∧
      (t.add delay).count = min (t.count + delay) latest.count := by
  have hnanos := nanos_lt h
  have hfirst := t.inRange.1
  have hlatest : latest.count = lastSecond * nanosPerSecond + 999999999 := rfl
  rw [add]
  split
  · -- so long a delay leads beyond the end from the first second even
    rename_i hlong
    refine ⟨rfl, ?_⟩
    rw [hlatest, count]
    simp only [longestDelay, firstSecond, lastSecond, nanosPerSecond] at hlong hfirst ⊢
    omega
  · simp only [h, Bool.false_and, Bool.false_eq_true, if_false, Nat.mod_eq_of_lt hnanos]
    have hsum : t.count + delay
        = (t.seconds + (delay / nanosPerSecond : Nat)
            + ((t.nanos + delay % nanosPerSecond : Nat) : Int) / nanosPerSecond) * nanosPerSecond
          + ((t.nanos + delay % nanosPerSecond) % nanosPerSecond : Nat) := by
      rw [count]
      simp only [nanosPerSecond]
      omega
    have hstart : firstSecond ≤ t.seconds + (delay / nanosPerSecond : Nat)
        + ((t.nanos + delay % nanosPerSecond : Nat) : Int) / nanosPerSecond := by
      simp only [nanosPerSecond]
      omega
    have hpart : (t.nanos + delay % nanosPerSecond) % nanosPerSecond < nanosPerSecond :=
      Nat.mod_lt _ (by decide)
    rw [hsum]
    generalize (t.nanos + delay % nanosPerSecond) % nanosPerSecond = nanos at hpart ⊢
    generalize t.seconds + (delay / nanosPerSecond : Nat)
      + ((t.nanos + delay % nanosPerSecond : Nat) : Int) / nanosPerSecond = seconds at hstart ⊢
    rcases ofParts?_of_lt hstart hpart with ⟨sum, hsome, hlast, hleap, hcount⟩ | ⟨hnone, hlast⟩
    · rw [hsome, Option.getD_some]
      refine ⟨hleap, ?_⟩
      have hle := count_le_latest hleap
      rw [hcount] at hle ⊢
      exact (Int.min_eq_left hle).symm
    · rw [hnone, Option.getD_none]
      refine ⟨rfl, ?_⟩
      rw [hlatest]
      simp only [lastSecond, nanosPerSecond] at hlast hpart ⊢
      omega

end Precis.Time.Timestamp
