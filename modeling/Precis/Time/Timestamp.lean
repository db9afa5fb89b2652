import Precis.Time.Calendar

/-!
# Timestamps

A timestamp is a second of universal time and the nanoseconds after its start. The nanoseconds stay
below one second, except that the last second of a minute may hold an inserted leap second, which is
counted as its nanoseconds from one second on to two. Timestamps are ordered first by second, then
by nanosecond. They reach from the year -262143 to the year 262142; a delay that leads further ends
at `latest`.
-/

namespace Precis.Time

/-- Nanoseconds in a second. -/
abbrev nanosPerSecond : Nat := 1000000000

/-- The first second, -262143-01-01T00:00:00. -/
def firstSecond : Int := -8334601228800

/-- The last second, 262142-12-31T23:59:59. -/
def lastSecond : Int := 8210266876799

/-- The nanoseconds that the second `s` has room for. -/
def fitsSecond (s : Int) (nanos : Nat) : Prop :=
  nanos < nanosPerSecond ∨ nanos < 2 * nanosPerSecond ∧ s % 60 = 59

instance (s : Int) (nanos : Nat) : Decidable (fitsSecond s nanos) :=
  inferInstanceAs (Decidable (_ ∨ _))

/-- A moment of universal time. -/
@[ext] structure Timestamp where
  seconds : Int
  nanos : Nat
  inRange : firstSecond ≤ seconds ∧ seconds ≤ lastSecond
  inSecond : fitsSecond seconds nanos
  deriving DecidableEq

namespace Timestamp

/-- The timestamp of a second and nanoseconds, if there is one. -/
def ofParts? (seconds : Int) (nanos : Nat) : Option Timestamp :=
  if h : (firstSecond ≤ seconds ∧ seconds ≤ lastSecond) ∧ fitsSecond seconds nanos then
    some ⟨seconds, nanos, h.1, h.2⟩
  else none

/-- The last timestamp that is not inside a leap second. -/
def latest : Timestamp := ⟨lastSecond, 999999999, by decide, by decide⟩

/-- The start of 1970. -/
def epoch : Timestamp := ⟨0, 0, by decide, by decide⟩

instance : Inhabited Timestamp := ⟨epoch⟩

/-- Comes before. -/
def before (a b : Timestamp) : Prop :=
  a.seconds < b.seconds ∨ a.seconds = b.seconds ∧ a.nanos < b.nanos

instance : LT Timestamp := ⟨before⟩

instance (a b : Timestamp) : Decidable (a < b) := inferInstanceAs (Decidable (_ ∨ _))

instance : LE Timestamp := ⟨fun a b => ¬ b < a⟩

instance (a b : Timestamp) : Decidable (a ≤ b) := inferInstanceAs (Decidable (¬ _))

theorem lt_iff {a b : Timestamp} :
    a < b ↔ a.seconds < b.seconds ∨ a.seconds = b.seconds ∧ a.nanos < b.nanos := Iff.rfl

theorem lt_trichotomy (a b : Timestamp) : a < b ∨ a = b ∨ b < a := by
  rw [Timestamp.ext_iff, lt_iff, lt_iff]
  omega

/-- Inside a leap second. -/
def isLeapSecond (t : Timestamp) : Bool := nanosPerSecond ≤ t.nanos

/-- The longest delay that can be added at all, in nanoseconds. -/
def longestDelay : Nat := 9223372036854775807 * 1000000

/-- `delay` nanoseconds later, or `latest` beyond the end. A leap second counts as passed once the
delay leaves it: the second after it starts two seconds after the one it belongs to. -/
def add (t : Timestamp) (delay : Nat) : Timestamp :=
  if longestDelay < delay then latest
  else
    let whole := delay / nanosPerSecond
    let part := delay % nanosPerSecond
    let stays := t.isLeapSecond && whole = 0 && t.nanos + part < 2 * nanosPerSecond
    let sum :=
      if stays then ofParts? t.seconds (t.nanos + part)
      else
        let nanos := t.nanos % nanosPerSecond + part
        ofParts? (t.seconds + whole + nanos / nanosPerSecond) (nanos % nanosPerSecond)
    sum.getD latest

/-- Whole milliseconds from `a` to `b`, for timestamps outside leap seconds. -/
def millisFrom (b a : Timestamp) : Int :=
  Int.tdiv ((b.seconds - a.seconds) * nanosPerSecond + (b.nanos - a.nanos : Int)) 1000000

end Timestamp

end Precis.Time
