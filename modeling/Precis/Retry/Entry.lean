import Precis.Item.Persisted
import Precis.Time.Span
import Precis.Word

/-!
# Retry entries

An entry schedules another attempt for an item that failed. The n-th retry waits `2 ^ n` times the
base delay; an entry whose retries ran out waits for nothing.
-/

namespace Precis

open Document Time

/-- A scheduled retry of an item. -/
@[ext] structure RetryEntry where
  item : Int64
  reason : String
  kind : FailureKind
  retries : UInt32
  next : Timestamp
  maxRetries : UInt32
  created : Timestamp
  last : Option Timestamp := none
  deriving DecidableEq, Inhabited

namespace RetryEntry

/-- The first entry of an item. -/
def new (item : Int64) (reason : String) (kind : FailureKind) (maxRetries : UInt32)
    (base : Nat) (now : Timestamp) : RetryEntry :=
  { item, reason, kind, retries := 0, next := now.add base, maxRetries, created := now }

/-- The number by which the base delay is multiplied after `retries` retries: a power of two, or the
largest 32-bit word. -/
def factor (retries : UInt32) : Nat :=
  if retries.toNat < 32 then Nat.pow 2 retries.toNat else 4294967295

/-- The entry after one more retry. -/
def retried (e : RetryEntry) (base : Nat) (now : Timestamp) : RetryEntry :=
  let retries := Word.clamp32 (e.retries.toNat + 1)
  { e with retries, next := now.add (base * factor retries), last := some now }

/-- The entry with another cause. -/
def withCause (e : RetryEntry) (reason : String) (kind : FailureKind) : RetryEntry :=
  { e with reason, kind }

/-- No retries are left. -/
def isExhausted (e : RetryEntry) : Bool := e.maxRetries ≤ e.retries

/-- A retry is left and its time has passed. -/
def isDue (e : RetryEntry) (now : Timestamp) : Bool := e.retries < e.maxRetries && e.next < now

/-- The record of an entry. -/
def toJson (e : RetryEntry) : Json :=
  Json.record
    [("item_id", Json.ofInt64 e.item),
     ("reason", Json.ofText e.reason),
     ("error_type", e.kind.toJson),
     ("retry_count", Json.ofUInt32 e.retries),
     ("next_retry_at", e.next.toJson),
     ("max_retries", Json.ofUInt32 e.maxRetries),
     ("created_at", e.created.toJson),
     ("last_retry_at", Json.nullOr Timestamp.toJson e.last)]

/-- The names of an entry's fields in order. -/
def fieldNames : List String :=
  ["item_id", "reason", "error_type", "retry_count", "next_retry_at", "max_retries", "created_at",
    "last_retry_at"]

/-- The entry of a record. -/
def ofJson? (v : Json) : Option RetryEntry := do
  let r ← slots fieldNames v
  return {
    item := ← (r.get "item_id").required Json.int64?
    reason := ← (r.get "reason").required text?
    kind := ← (r.get "error_type").required FailureKind.ofJson?
    retries := ← (r.get "retry_count").required uint32?
    next := ← (r.get "next_retry_at").required Timestamp.ofJson?
    maxRetries := ← (r.get "max_retries").required uint32?
    created := ← (r.get "created_at").required Timestamp.ofJson?
    last := ← (r.get "last_retry_at").nullable Timestamp.ofJson? }

end RetryEntry

end Precis
