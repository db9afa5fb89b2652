import Precis.Time.Span

/-!
# Problems

What a call can refuse to do, as a cause with its context. The text of a problem names its area,
then the message, then the parts of the context that are known.
-/

namespace Precis

/-- Where a problem was met. -/
structure Context where
  field : Option String := none
  details : Option String := none
  source : Option String := none
  deriving DecidableEq, Repr, Inhabited

/-- The area of a problem. -/
inductive Area where
  | configuration
  | validation
  | source
  | checkpoint
  | storage
  | runtime
  deriving DecidableEq, Repr

/-- The reason why a call did not do its work. -/
inductive Problem where
  /-- A problem of an area, in words. -/
  | stated (area : Area) (message : String) (context : Context)
  /-- The stored position of a source cannot be read. -/
  | corruptCheckpoint (context : Context)
  /-- A limiter gave no permit in time. -/
  | noPermit (host : String) (waited : Nat)
  /-- A file cannot be read. -/
  | unreadableFile
  /-- Settings cannot be read. -/
  | unreadableSettings
  deriving DecidableEq, Repr

namespace Context

/-- The known parts of a context, each with its name. -/
def parts (c : Context) : List String :=
  (c.field.map fun s => "field: " ++ s).toList
    ++ (c.details.map fun s => "details: " ++ s).toList
    ++ (c.source.map fun s => "source: " ++ s).toList

/-- The context as it follows a message. -/
def suffix (c : Context) : String :=
  if c.parts.isEmpty then "" else " (" ++ ", ".intercalate c.parts ++ ")"

end Context

namespace Area

/-- How a problem of the area starts. -/
def heading : Area → String
  | configuration => "Configuration error: "
  | validation => "Validation error: "
  | source => "Item source error: "
  | checkpoint => "Checkpoint error: "
  | storage => "Storage error: "
  | runtime => "Runtime error: "

end Area

namespace Problem

/-- The text of a problem. What a reader of files or documents objected to is not told. -/
def message : Problem → String
  | stated area text context => area.heading ++ text ++ context.suffix
  | corruptCheckpoint context => "Checkpoint error: corrupt checkpoint" ++ context.suffix
  | noPermit host waited =>
    "Rate limit exceeded for " ++ host ++ ": no permit within " ++ Time.Span.toText waited
  | unreadableFile => "I/O error"
  | unreadableSettings => "YAML error"

/-- Comes from a limiter. -/
def isRateLimited : Problem → Bool
  | noPermit _ _ => true
  | _ => false

end Problem

end Precis
