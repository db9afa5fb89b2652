import Precis.Decimal.Basic
import Precis.Time.Instant

/-!
# Token buckets

A bucket holds permits up to its burst and refills at a steady rate. It can be paused: until the
pause ends it gives no permit. A rate of zero means no limit.

The arithmetic is a parameter. Doubles run the program; exact numbers show what the bucket promises
when no rounding interferes.
-/

namespace Precis

open Time

/-- The arithmetic of a bucket. -/
class Quantity (α : Type) extends Add α, Sub α, Mul α, Div α where
  zero : α
  one : α
  /-- At most. -/
  leq : α → α → Bool
  /-- Less. -/
  less : α → α → Bool
  /-- A number of nanoseconds in seconds. -/
  ofSpan : Nat → α
  /-- Seconds to the nearest nanosecond. -/
  toSpan : α → Nat
  /-- Seconds in whole milliseconds, rounded down. -/
  toMillis : α → Nat

/-- The nearest number of nanoseconds to a number of seconds, ties to the even one. -/
def Time.Span.ofFloat (x : Float) : Nat :=
  if 0 < x then
    let b := Decimal.binaryOfBits (x.toBits.toNat % Nat.pow 2 63)
    Decimal.roundDiv (b.mantissa * 1000000000 * Nat.pow 2 b.exponent.toNat)
      (Nat.pow 2 (-b.exponent).toNat)
  else 0

/-- A span in seconds: its whole seconds and its nanoseconds are rounded apart. -/
def Time.Span.toFloat (s : Nat) : Float :=
  Float.ofNat (s / 1000000000) + Float.ofNat (s % 1000000000) / 1000000000

instance : Quantity Float where
  zero := 0
  one := 1
  leq a b := a ≤ b
  less a b := a < b
  ofSpan := Span.toFloat
  toSpan := Span.ofFloat
  toMillis x := (x * 1000).toUInt64.toNat

/-- Permits at a steady rate. -/
structure BucketConfig (α : Type) where
  /-- Permits a second. -/
  rate : α
  /-- The largest number of permits at one time. -/
  burst : α
  /-- How long a caller waits for a permit. -/
  timeout : Option Nat := none

namespace BucketConfig

/-- Ten permits a second. -/
def standard : BucketConfig Float := { rate := 10, burst := 10 }

/-- So many permits a second; none for a rate that makes no sense. -/
def ofRate? (rate : Float) : Option (BucketConfig Float) :=
  if rate.isFinite && !(rate < 0) then
    some { rate, burst := if rate ≤ 1 then 1 else rate }
  else none

/-- So many permits in a period. -/
def ofPeriod? (permits : UInt32) (period : Nat) : Option (BucketConfig Float) :=
  let seconds := Span.toFloat period
  if permits = 0 || seconds ≤ 0 then none
  else
    let n := Float.ofNat permits.toNat
    some { rate := n / seconds, burst := n }

end BucketConfig

/-- A bucket. -/
structure Bucket (α : Type) where
  config : BucketConfig α
  permits : α
  /-- When it was last refilled. -/
  mark : Nat
  /-- The end of the last pause. -/
  blocked : Option Nat := none

/-- The answer of a bucket that is asked for a permit. -/
inductive Grant where
  | permit
  /-- No permit before so long a time. -/
  | wait (span : Nat)
  deriving DecidableEq, Repr

/-- What a bucket shows of itself. -/
structure BucketView (α : Type) where
  rate : α
  burst : α
  permits : α
  waitMillis : Option Nat

namespace Bucket

open Quantity

variable {α : Type} [Quantity α]

/-- A full bucket. -/
def full (config : BucketConfig α) (now : Nat) : Bucket α :=
  { config, permits := config.burst, mark := now }

/-- The smaller of two quantities. -/
def least (a b : α) : α := if leq a b then a else b

/-- The bucket with the permits of the time since its mark. -/
def refilled (b : Bucket α) (now : Nat) : Bucket α :=
  let elapsed : α := ofSpan (now - b.mark)
  if less zero elapsed then
    { b with permits := least (b.permits + elapsed * b.config.rate) b.config.burst, mark := now }
  else b

/-- The rest of a pause. -/
def pauseLeft (b : Bucket α) (now : Nat) : Option Nat :=
  match b.blocked with
  | some t => if now < t then some (t - now) else none
  | none => none

/-- Takes a permit out of a bucket without a pause. -/
def take (b : Bucket α) (now : Nat) : Grant × Bucket α :=
  if leq b.config.rate zero then (.permit, b)
  else
    let b := b.refilled now
    if leq one b.permits then (.permit, { b with permits := b.permits - one })
    else (.wait (toSpan ((one - b.permits) / b.config.rate)), b)

/-- Asks for a permit. -/
def ask (b : Bucket α) (now : Nat) : Grant × Bucket α :=
  match b.pauseLeft now with
  | some span => (.wait span, b)
  | none => { b with blocked := none }.take now

/-- Asks for a permit without waiting. -/
def tryAcquire (b : Bucket α) (now : Nat) : Bool × Bucket α :=
  let (grant, b) := b.ask now
  (grant = .permit, b)

/-- Gives no permit for a span; of two pauses the later end counts. -/
def pauseFor (b : Bucket α) (span : Nat) (now : Nat) : Bucket α :=
  { b with blocked := some ((b.blocked.map (max · (now + span))).getD (now + span)) }

/-- What the bucket shows, and the bucket after the look. -/
def view (b : Bucket α) (now : Nat) : BucketView α × Bucket α :=
  let pause := (b.pauseLeft now).map Span.millis
  let shown := fun (b : Bucket α) wait =>
    (⟨b.config.rate, b.config.burst, b.permits, wait⟩, b)
  if less zero b.config.rate then
    let b := b.refilled now
    if less b.permits one then
      let own := toMillis ((one - b.permits) / b.config.rate)
      shown b (some (max (pause.getD 0) own))
    else shown b pause
  else shown b pause

end Bucket

end Precis
