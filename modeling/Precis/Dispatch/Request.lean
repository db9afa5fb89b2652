import Precis.Dispatch.Provider
import Precis.Dispatch.Result
import Precis.Dispatch.Settings

/-!
# Requests

A request is a list of items that is sent as a whole. What comes back, a response or an error, gives
every item of the request an outcome.
-/

namespace Precis

/-- Items to be sent together. -/
structure Request where
  id : Nat
  items : List Item
  estimatedTokens : UInt64
  deriving DecidableEq, Inhabited

namespace Request

/-- The number of items as a word. -/
def size (r : Request) : UInt64 := UInt64.ofNat r.items.length

/-- The outcome of one item in a response. -/
def settle (r : Request) (response : Response) (o : Outcome) (item : Item) : Outcome :=
  let fail := fun kind reason =>
    { o with failures := o.failures ++ [.ofItem item kind reason r.size] }
  match response.lookup item.id with
  | some (.summary summary) => { o with successes := o.successes ++ [{ item, summary }] }
  | some (.failed message code) => fail (ItemOutcome.kind message code) message
  | none => fail .apiError "item missing from provider response"

/-- The outcome of a request that got a response. -/
def answered (r : Request) (response : Response) : Outcome :=
  r.items.foldl (r.settle response) {}

/-- The outcome of a request that failed as a whole. -/
def failed (r : Request) (e : CallError) : Outcome :=
  { failures := r.items.map fun item => .ofBatch item e.kind e.message r.size }

/-- The result of a request with this outcome after so many attempts. -/
def result (r : Request) (attempts : Nat) (outcome : Outcome) : Result :=
  { request := r.id
    outcome
    metrics :=
      { items := r.items.length
        successes := outcome.successes.length
        failures := outcome.failures.length
        attempts
        estimatedTokens := r.estimatedTokens } }

end Request

end Precis
