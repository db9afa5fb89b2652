import Precis.Host.Basic
import Precis.Rate.Jitter
import Precis.Rate.Limiter
import Precis.Rate.Tier

/-!
# Destinations

All addresses of one host share one limiter, which is made when the host is first called. Its bucket
follows the tier of the host.
-/

namespace Precis

open Time

/-- A host with its tier. -/
structure Destination where
  host : String
  tier : Tier
  deriving DecidableEq, Repr

namespace RateSettings

/-- The destination of an address. -/
def destination (s : RateSettings) (address : String) : Except Problem Destination :=
  (Host.extract address).map fun host => { host, tier := s.tierOf host }

end RateSettings

namespace TierLimits

/-- The bucket of a tier; limits that describe no rate stand for one call a second. -/
def bucket (t : TierLimits) : BucketConfig Float :=
  let config := BucketConfig.ofPeriod? t.calls (Span.ofSeconds t.periodSeconds.toNat)
  { config.getD { rate := 1, burst := 1 } with
    timeout := some (Span.ofSeconds t.timeoutSeconds.toNat) }

end TierLimits

/-- The limiters of the hosts that were called. -/
structure Destinations where
  settings : RateSettings := {}
  jitter : Jitter := {}
  limiters : Table String (Limiter Float) := Table.empty

namespace Destinations

/-- The number of limiters. -/
def count (d : Destinations) : Nat := d.limiters.size

/-- A new limiter for a destination. -/
def fresh (d : Destinations) (place : Destination) (now : Nat) : Limiter Float :=
  Limiter.new place.host (d.settings.limitsOf place.tier).bucket now

/-- The destinations with the limiter of a host. -/
def keep (d : Destinations) (host : String) (l : Limiter Float) : Destinations :=
  { d with limiters := d.limiters.insert host l }

/-- The limiter of an address, with its host and the destinations that hold it. -/
def limiterFor (d : Destinations) (address : String) (now : Nat) :
    Except Problem (String × Limiter Float × Destinations) :=
  (d.settings.destination address).map fun place =>
    match d.limiters.get? place.host with
    | some l => (place.host, l, d)
    | none =>
      let l := d.fresh place now
      (place.host, l, d.keep place.host l)

/-- Waits for the jitter, whose random part is `part`, and then for a permit. Gives the time after
it. -/
def throttle (fuel part : Nat) (d : Destinations) (address : String) (now : Nat) :
    Option (Except Overflow (Except Problem Unit × Nat × Destinations)) :=
  match d.limiterFor address now with
  | .error problem => some (.ok (.error problem, now, d))
  | .ok (host, l, d) =>
    let now :=
      match d.jitter.sample part with
      | some span => max now (Instant.tick (now + span))
      | none => now
    (l.acquire fuel now).map fun r => r.map fun r => (r.1, r.2.1, d.keep host r.2.2)

end Destinations

end Precis
