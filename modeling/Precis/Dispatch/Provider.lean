import Precis.Failure.Message
import Precis.Item.Basic
import Precis.Time.Span

/-!
# What a provider answers

A call sends items and gets either a response, which says for some ids how they went, or an error
for the whole call. A response may leave out items and may speak of items that were not sent.
-/

namespace Precis

open Time

/-- How one item of a call went. -/
inductive ItemOutcome where
  | summary (s : Summary)
  | failed (message : String) (code : Option String)
  deriving DecidableEq, Inhabited

namespace ItemOutcome

/-- The kind of an item's failure. -/
def kind (message : String) (code : Option String) : FailureKind :=
  FailureKind.ofReport message code

end ItemOutcome

/-- The outcomes of a call by item. -/
abbrev Response := List (Int64 × ItemOutcome)

/-- The reason why a whole call failed. -/
structure CallError where
  kind : FailureKind
  message : String
  /-- The delay that the destination asks for. -/
  retryAfter : Option Nat := none
  deriving DecidableEq, Inhabited

namespace CallError

/-- The error of a response status. -/
def ofStatus (status : Nat) (message : String) : CallError :=
  { kind := FailureKind.ofStatus status, message }

/-- The error of a message, classified by its words. -/
def ofMessage (message : String) : CallError :=
  { kind := FailureKind.ofMessage message, message }

/-- Another attempt may succeed. -/
def retryable (e : CallError) : Bool := e.kind.retryable

/-- The text of an error. -/
def toText (e : CallError) : String := e.kind.name ++ ": " ++ e.message

end CallError

/-- How a call ends. -/
inductive CallEnd where
  | answered (response : Response)
  | failed (error : CallError)
  /-- The provider broke down, perhaps with a message. -/
  | crashed (message : Option String)
  deriving Inhabited

/-- What a provider does with a call: how many milliseconds it takes, and how it ends. -/
structure Reply where
  millis : Nat
  result : CallEnd
  deriving Inhabited

/-- A provider with a state of its own. It is told the time and the items of a call. -/
abbrev Provider (σ : Type) := Nat → σ → List Item → Reply × σ

end Precis
