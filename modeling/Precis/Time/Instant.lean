import Precis.Time.Span

/-!
# Instants of a run

An instant is the number of nanoseconds since the start of a run. The clock of a run stands at whole
milliseconds: a sleep ends at the first one that is not before its deadline. It counts seconds in a
signed word, so there is a last instant.
-/

namespace Precis.Time

/-- The last instant. -/
def Instant.last : Nat := 9223372036854775807999999999

/-- The first whole millisecond at or after `t`. -/
def Instant.tick (t : Nat) : Nat := (t + 999999) / 1000000 * 1000000

theorem Instant.le_tick (t : Nat) : t ≤ Instant.tick t := by
  unfold Instant.tick
  omega

theorem Instant.tick_tick (t : Nat) : Instant.tick (Instant.tick t) = Instant.tick t := by
  unfold Instant.tick
  omega

end Precis.Time
