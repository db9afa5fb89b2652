/-!
# Overflow

An operation on bounded numbers has no result when the exact one is out of their range. The program
stops there, and says so.
-/

namespace Precis

/-- What was out of range. -/
inductive Overflow where
  /-- A sum of words. -/
  | sum
  /-- A time that lies a span after another one. -/
  | time
  /-- A number of seconds as a span. -/
  | span
  deriving DecidableEq, Repr

/-- What the program says when it stops. -/
def Overflow.message : Overflow → String
  | sum => "attempt to add with overflow"
  | time => "overflow when adding duration to instant"
  | span => "cannot convert float seconds to Duration: value is either too big or NaN"

end Precis
