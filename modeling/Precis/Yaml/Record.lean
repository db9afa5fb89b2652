import Precis.Document
import Precis.Yaml.Node
import Precis.Yaml.Plain

/-!
# Records in Yaml

A record is a mapping. Where nothing is written it reads as a mapping without entries, and where it
is written it must not be quoted to count as null, a truth value or a number. Any scalar is a text.
-/

namespace Precis.Yaml

namespace Node

/-- Nothing is written here. -/
def isNothing : Node → Bool
  | scalar "" .plain _ => true
  | _ => false

/-- The text of a scalar that may have another meaning: a plain one, or a literal block with the tag
of this meaning. -/
def meaning? (tag : String) : Node → Option String
  | scalar text .plain _ => some text
  | scalar text .literal (some t) => if t = tag then some text else none
  | _ => none

/-- The text of a scalar. -/
def text? : Node → Option String
  | scalar text _ _ => some text
  | _ => none

/-- The entries of a mapping whose keys are scalars. -/
def entries? : Node → Option (List (String × Node))
  | mapping es => es.mapM fun e => e.1.text?.map fun k => (k, e.2)
  | n => if n.isNothing then some [] else none

/-- Spells null, or is left out. What has the tag of null must spell it. -/
def isNull? : Node → Option Bool
  | scalar text .plain none => some (text.isEmpty || isNullWord text)
  | scalar text .plain (some tag) =>
    if tag ≠ "tag:yaml.org,2002:null" then some false
    else if isNullWord text then some true
    else none
  | _ => some false

/-- A truth value. -/
def bool? (n : Node) : Option Bool := (n.meaning? "tag:yaml.org,2002:bool").bind boolOf?

/-- A natural number below a bound. -/
def natBelow? (bound : Nat) (n : Node) : Option Nat := do
  let k ← natOf? (← n.meaning? "tag:yaml.org,2002:int").toList
  if k < bound then some k else none

/-- A double. -/
def float? (n : Node) : Option Float := (n.meaning? "tag:yaml.org,2002:float").bind floatOf?

/-- The name of a variant: a local tag with nothing in it, or else a text. -/
def variant? (n : Node) : Option String :=
  match n with
  | scalar text style (some tag) =>
    match tag.toList with
    | '!' :: rest =>
      let name := if rest.isEmpty then tag else String.ofList rest
      if style = .plain && (text.isEmpty || isNullWord text) then some name else none
    | _ => some text
  | _ => n.text?

end Node

instance : Document Node where
  slots names n := n.entries?.bind fun es => slotsOfMembers es names
  isNull? := Node.isNull?
  text? := Node.text?
  bool? := Node.bool?
  natBelow? := Node.natBelow?
  float? := Node.float?
  variant? := Node.variant?
  entries? := Node.entries?

end Precis.Yaml
