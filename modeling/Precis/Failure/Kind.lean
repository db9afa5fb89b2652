import Precis.Text.Pattern

/-!
# Kinds of failure

Every failure has one of eight kinds; the first four are worth a retry. A kind is read from what a
provider says: a status number, a code, the reason why an answer ended, or the words of a message.
-/

namespace Precis

/-- What went wrong with an item or a call. -/
inductive FailureKind where
  | apiError
  | timeout
  | rateLimit
  | validation
  | content
  | safetyBlocked
  | lengthLimit
  | unknown
  deriving DecidableEq, Repr, Inhabited

namespace FailureKind

/-- All kinds. -/
def all : List FailureKind :=
  [apiError, timeout, rateLimit, validation, content, safetyBlocked, lengthLimit, unknown]

/-- The name of a kind. -/
def name : FailureKind → String
  | apiError => "API_ERROR"
  | timeout => "TIMEOUT"
  | rateLimit => "RATE_LIMIT"
  | validation => "VALIDATION_ERROR"
  | content => "CONTENT_ERROR"
  | safetyBlocked => "SAFETY_BLOCKED"
  | lengthLimit => "LENGTH_LIMIT"
  | unknown => "UNKNOWN"

/-- The kind with a name. -/
def ofName? (s : String) : Option FailureKind := all.find? (·.name == s)

/-- The kind with a name; other names mean `unknown`. -/
def ofName (s : String) : FailureKind := (ofName? s).getD unknown

/-- Another attempt may succeed. -/
def retryable : FailureKind → Bool
  | apiError | timeout | rateLimit | validation => true
  | content | safetyBlocked | lengthLimit | unknown => false

/-- The kind of a response status. -/
def ofStatus (status : Nat) : FailureKind :=
  if status = 429 then rateLimit
  else if status = 408 || status = 504 then timeout
  else if status = 400 || status = 413 || status = 422 then validation
  else if 500 ≤ status && status ≤ 599 then apiError
  else unknown

/-- The codes of each kind, in lower case. -/
def codes : List (FailureKind × List String) :=
  [(rateLimit, ["rate_limited", "rate_limit_exceeded", "rate_limit_error", "resource_exhausted"]),
   (timeout, ["timeout", "deadline_exceeded", "request_timeout"]),
   (validation,
    ["invalid_request", "invalid_request_error", "invalid_argument", "request_too_large"]),
   (safetyBlocked, ["content_filter", "safety", "blocked", "prohibited_content"]),
   (lengthLimit, ["context_length_exceeded", "max_tokens", "length"]),
   (content, ["invalid_content", "unsupported_content", "content_error"]),
   (apiError,
    ["server_error", "api_error", "overloaded", "overloaded_error", "internal", "unavailable"])]

/-- The reasons of each kind why an answer ended early, in lower case. -/
def finishReasons : List (FailureKind × List String) :=
  [(lengthLimit, ["length", "max_tokens", "max_output_tokens"]),
   (safetyBlocked, ["content_filter", "safety", "recitation", "blocklist"])]

/-- The text with the ASCII capitals made small. -/
def lowerAscii (s : String) : String := String.ofList (s.toList.map Char.toLower)

/-- The kind under which a table lists a word, in any case. -/
def lookup (table : List (FailureKind × List String)) (word : String) : Option FailureKind :=
  (table.find? fun row => row.2.contains (lowerAscii word)).map (·.1)

/-- The kind of a provider's code. -/
def ofCode? (code : String) : Option FailureKind := lookup codes code

/-- The kind of a reason why an answer ended; `none` for those that are no failure. -/
def ofFinishReason? (reason : String) : Option FailureKind := lookup finishReasons reason

end FailureKind

end Precis
