import Precis.Failure.Kind

/-!
# Messages of failures

A message without a code is classified by its words. The patterns are tried in order and the first
that occurs in the message decides, so that a message that speaks of several things has the kind
listed first.
-/

namespace Precis.FailureKind

open Text Text.Pattern

/-- The words of each kind. -/
def patterns : List (Pattern × FailureKind) :=
  [(oneOf
      [alone (word "429"), inOrder [word "rate", optional any, word "limit"],
       word "too many requests", word "quota"],
    rateLimit),
   (oneOf
      [inOrder [word "time", optional (char 'd'), optional any, word "out"], word "deadline"],
    timeout),
   (oneOf
      [word "safety", inOrder [word "content", optional any, word "filter"], word "blocked"],
    safetyBlocked),
   (oneOf
      [inOrder
        [word "finish", optional any, word "reason", gap,
         oneOf [word "length", inOrder [word "max", optional any, word "tokens"]]],
       word "truncated", word "too long"],
    lengthLimit),
   (oneOf
      [word "invalid", word "malformed", word "validation",
       alone (seq (char '4') (oneOf [word "00", word "13", word "22"]))],
    validation),
   (oneOf
      [alone (inOrder [char '5', digit, digit]), word "server error", word "unavailable",
       word "overloaded"],
    apiError)]

/-- The kind of the first pattern that occurs in the message. -/
def ofMessage (message : String) : FailureKind :=
  ((patterns.find? fun row => row.1.occursIn message).map (·.2)).getD unknown

/-- The kind of a failure that comes with a message and perhaps a code, which is first tried as a
reason why an answer ended. -/
def ofReport (message : String) (code : Option String) : FailureKind :=
  ((code.bind fun c => (ofFinishReason? c).or (ofCode? c))).getD (ofMessage message)

end Precis.FailureKind
