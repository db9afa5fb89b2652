import Precis.Document
import Precis.Table
import Precis.Tree

/-!
# Tiers

A tier says how fast one destination may be called. Hosts that the settings list have a tier of
their own; every other host has the strictest.
-/

namespace Precis

/-- How carefully a destination is treated. -/
inductive Tier where
  | standard
  | conservative
  | ultraSafe
  deriving DecidableEq, Repr, Inhabited

namespace Tier

/-- All tiers. -/
def all : List Tier := [standard, conservative, ultraSafe]

/-- The name of a tier. -/
def name : Tier → String
  | standard => "standard"
  | conservative => "conservative"
  | ultraSafe => "ultra_safe"

/-- The tier with a name. -/
def ofName? (s : String) : Option Tier := all.find? (·.name == s)

/-- The tier named by a document. -/
def read? [Document δ] (v : δ) : Option Tier := (Document.variant? v).bind ofName?

end Tier

/-- So many calls in a period, and how long a caller may wait for a permit. -/
structure TierLimits where
  calls : UInt32
  periodSeconds : UInt64
  timeoutSeconds : UInt64
  deriving DecidableEq, Repr, Inhabited

namespace TierLimits

/-- The names of the fields of a tier in order. -/
def fieldNames : List String := ["limit_for_period", "refresh_period_secs", "timeout_secs"]

/-- The limits of a record. -/
def read? [Document δ] (v : δ) : Option TierLimits := do
  let r ← Document.slots fieldNames v
  return {
    calls := ← (r.get "limit_for_period").required Document.uint32?
    periodSeconds := ← (r.get "refresh_period_secs").required Document.uint64?
    timeoutSeconds := ← (r.get "timeout_secs").required Document.uint64? }

/-- The limits as a record. -/
def toTree (t : TierLimits) : Tree :=
  .record
    [("limit_for_period", .uint32 t.calls),
     ("refresh_period_secs", .uint64 t.periodSeconds),
     ("timeout_secs", .uint64 t.timeoutSeconds)]

end TierLimits

/-- The limits of each tier, and the tiers of known hosts. -/
structure RateSettings where
  standard : TierLimits := ⟨10, 1, 30⟩
  conservative : TierLimits := ⟨2, 1, 30⟩
  ultraSafe : TierLimits := ⟨1, 2, 60⟩
  hosts : Table String Tier :=
    Table.ofList
      [("medium.com", .conservative), ("substack.com", .conservative), ("dev.to", .standard),
       ("github.blog", .standard)]
  deriving DecidableEq, Inhabited

namespace RateSettings

/-- The limits of a tier. -/
def limitsOf (s : RateSettings) : Tier → TierLimits
  | .standard => s.standard
  | .conservative => s.conservative
  | .ultraSafe => s.ultraSafe

/-- The tier of a host. -/
def tierOf (s : RateSettings) (host : String) : Tier := (s.hosts.get? host).getD .ultraSafe

/-- The settings with another tier for a host. -/
def withHost (s : RateSettings) (host : String) (tier : Tier) : RateSettings :=
  { s with hosts := s.hosts.insert host tier }

/-- A table of hosts; of entries for one host the last one counts. -/
def readHosts? [Document δ] (v : δ) : Option (Table String Tier) := do
  let entries ← Document.entries? v
  let read ← entries.mapM fun e => (Tier.read? e.2).map fun t => (e.1, t)
  return Table.ofList read

/-- The settings of a record; what is left out has its default. -/
def read? [Document δ] (v : δ) : Option RateSettings := do
  let r ← Document.slots ["standard", "conservative", "ultra_safe", "hosts"] v
  let d : RateSettings := {}
  return {
    standard := ← (r.get "standard").withDefault d.standard TierLimits.read?
    conservative := ← (r.get "conservative").withDefault d.conservative TierLimits.read?
    ultraSafe := ← (r.get "ultra_safe").withDefault d.ultraSafe TierLimits.read?
    hosts := ← (r.get "hosts").withDefault d.hosts readHosts? }

/-- The settings as a record. -/
def toTree (s : RateSettings) : Tree :=
  .record
    [("standard", s.standard.toTree),
     ("conservative", s.conservative.toTree),
     ("ultra_safe", s.ultraSafe.toTree),
     ("hosts", .record (s.hosts.entries.map fun e => (e.1, .text e.2.name)))]

end RateSettings

end Precis
