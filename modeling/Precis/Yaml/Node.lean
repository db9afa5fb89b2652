import Precis.Yaml.Token

/-!
# Nodes

A document is one node: a scalar, a list or a mapping. Aliases are replaced by the nodes that their
anchors name. What is left out reads as an empty plain scalar.

The grammar is followed over the tokens. Its functions call each other, so they share a fuel; each
call takes a token or is the last of a few that do not, and four times the number of tokens is
enough.
-/

namespace Precis.Yaml

/-- A node of a document. -/
inductive Node where
  | scalar (text : String) (style : Style) (tag : Option String)
  | list (items : List Node)
  | mapping (entries : List (Node × Node))
  /-- An alias inside the node that its anchor names. -/
  | inside
  deriving Inhabited

namespace Node

/-- What stands for a node that is left out. -/
def nothing : Node := scalar "" .plain none

/-- Tokens under way, with the nodes of the anchors so far. -/
structure Reading where
  tokens : List Token
  anchors : List (List Char × Node) := []

/-- A part of the grammar. -/
abbrev Part := StateT Reading Option

/-- The next token. -/
def peek : Part (Option Token) := do return (← get).tokens.head?

/-- Moves over the next token. -/
def skip : Part Unit := modify fun r => { r with tokens := r.tokens.drop 1 }

/-- The document cannot be read. -/
def refuse : Part α := (fun _ => none : Reading → Option (α × Reading))

/-- Moves over one token if it comes next. -/
def accept (t : Token) : Part Bool := do
  if (← peek) = some t then skip; return true else return false

/-- The token must come next. -/
def expect (t : Token) : Part Unit := do
  if ← accept t then return else refuse

/-- One of the tokens comes next. -/
def comes (ts : List Token) : Part Bool := do
  match ← peek with
  | some t => return ts.contains t
  | none => return false

/-- Handles of tags, each with what it stands for. -/
abbrev Handles := List (List Char × List Char)

/-- The handles that need no directive. -/
def commonHandles : Handles := [(['!'], ['!']), ("!!".toList, "tag:yaml.org,2002:".toList)]

/-- The tag that a handle and a suffix stand for. -/
def tagOf (handles : Handles) (handle suffix : List Char) : Part String :=
  if handle.isEmpty then return String.ofList suffix
  else
    match handles.lookup handle with
    | some expansion => return String.ofList (expansion ++ suffix)
    | none => refuse

/-- An anchor, if one comes. -/
def anchorPart : Part (Option (List Char)) := do
  match ← peek with
  | some (.anchor name) => skip; return some name
  | _ => return none

/-- A tag, if one comes. -/
def tagPart (handles : Handles) : Part (Option String) := do
  match ← peek with
  | some (.tag handle suffix) => skip; return some (← tagOf handles handle suffix)
  | _ => return none

/-- An anchor and a tag in either order; each may be missing. -/
def properties (handles : Handles) : Part (Option (List Char) × Option String) := do
  match ← anchorPart with
  | some name => return (some name, ← tagPart handles)
  | none =>
    let tag ← tagPart handles
    if tag.isSome then return (← anchorPart, tag) else return (none, none)

/-- Gives an anchor a node. -/
def bindAnchor (name : Option (List Char)) (node : Node) : Part Unit :=
  match name with
  | some name => modify fun r => { r with anchors := (name, node) :: r.anchors }
  | none => return

/-- The node of an alias. -/
def aliased (name : List Char) : Part Node := do
  match (← get).anchors.lookup name with
  | some node => return node
  | none => refuse

/-- Where a node stands. -/
structure Setting where
  /-- Block collections may start here. -/
  block : Bool
  /-- A list may start here without an indentation of its own. -/
  unindented : Bool := false

mutual

/-- A node. -/
def node (handles : Handles) : (fuel : Nat) → Setting → Part Node
  | 0, _ => refuse
  | fuel + 1, setting => do
    match ← peek with
    | some (.alias name) => skip; aliased name
    | _ =>
      let (anchor, tag) ← properties handles
      bindAnchor anchor .inside
      let node ← content handles fuel setting (anchor.isSome || tag.isSome) tag
      bindAnchor anchor node
      return node

/-- What follows the properties of a node; it may be nothing where `optional` says so. -/
def content (handles : Handles) :
    (fuel : Nat) → Setting → (optional : Bool) → Option String → Part Node
  | 0, _, _, _ => refuse
  | fuel + 1, setting, optional, tag => do
    match ← peek with
    | some (.scalar text style) => skip; return scalar (String.ofList text) style tag
    | some .openBracket => skip; return list (← flowItems handles fuel true)
    | some .openBrace => skip; return mapping (← flowEntries handles fuel true)
    | some .entry =>
      if setting.unindented then return list (← bareItems handles fuel)
      else if optional then return scalar "" .plain tag
      else refuse
    | some .sequenceStart =>
      if setting.block then skip; return list (← items handles fuel)
      else if optional then return scalar "" .plain tag
      else refuse
    | some .mappingStart =>
      if setting.block then skip; return mapping (← entries handles fuel)
      else if optional then return scalar "" .plain tag
      else refuse
    | _ => if optional then return scalar "" .plain tag else refuse

/-- A node in a block, or nothing before one of the tokens. -/
def blockNode (handles : Handles) : (fuel : Nat) → (unindented : Bool) → List Token → Part Node
  | 0, _, _ => refuse
  | fuel + 1, unindented, ends => do
    if ← comes ends then return nothing else node handles fuel { block := true, unindented }

/-- The items of a list with an indentation of its own. -/
def items (handles : Handles) : (fuel : Nat) → Part (List Node)
  | 0 => refuse
  | fuel + 1 => do
    if ← accept .blockEnd then return []
    else
      expect .entry
      let item ← blockNode handles fuel false [.entry, .blockEnd]
      return item :: (← items handles fuel)

/-- The items of a list without an indentation of its own. -/
def bareItems (handles : Handles) : (fuel : Nat) → Part (List Node)
  | 0 => refuse
  | fuel + 1 => do
    if ← accept .entry then
      let item ← blockNode handles fuel false [.entry, .key, .value, .blockEnd]
      return item :: (← bareItems handles fuel)
    else return []

/-- The entries of a mapping in a block. -/
def entries (handles : Handles) : (fuel : Nat) → Part (List (Node × Node))
  | 0 => refuse
  | fuel + 1 => do
    if ← accept .blockEnd then return []
    else
      expect .key
      let key ← blockNode handles fuel true [.key, .value, .blockEnd]
      let value ←
        if ← accept .value then blockNode handles fuel true [.key, .value, .blockEnd]
        else pure nothing
      return (key, value) :: (← entries handles fuel)

/-- A node inside brackets, or nothing before one of the tokens. -/
def flowNode (handles : Handles) : (fuel : Nat) → List Token → Part Node
  | 0, _ => refuse
  | fuel + 1, ends => do
    if ← comes ends then return nothing else node handles fuel { block := false }

/-- The items up to the closing bracket. -/
def flowItems (handles : Handles) : (fuel : Nat) → (first : Bool) → Part (List Node)
  | 0, _ => refuse
  | fuel + 1, first => do
    if ← accept .closeBracket then return []
    else
      if !first then expect .comma
      if ← accept .closeBracket then return []
      else
        let item ←
          if ← accept .key then pairNode handles fuel
          else node handles fuel { block := false }
        return item :: (← flowItems handles fuel false)

/-- A mapping of one entry that stands in a list, after the mark of its key. Where the key is left
out, the token after it is passed over. -/
def pairNode (handles : Handles) : (fuel : Nat) → Part Node
  | 0 => refuse
  | fuel + 1 => do
    let key ←
      if ← comes [.value, .comma, .closeBracket] then
        skip
        pure nothing
      else node handles fuel { block := false }
    let value ←
      if ← accept .value then flowNode handles fuel [.comma, .closeBracket] else pure nothing
    return mapping [(key, value)]

/-- The entries up to the closing brace. -/
def flowEntries (handles : Handles) : (fuel : Nat) → (first : Bool) → Part (List (Node × Node))
  | 0, _ => refuse
  | fuel + 1, first => do
    if ← accept .closeBrace then return []
    else
      if !first then expect .comma
      if ← accept .closeBrace then return []
      else
        let entry ←
          if ← accept .key then
            let key ← flowNode handles fuel [.value, .comma, .closeBrace]
            let value ←
              if ← accept .value then flowNode handles fuel [.comma, .closeBrace]
              else pure nothing
            pure (key, value)
          else
            let key ← node handles fuel { block := false }
            pure (key, nothing)
        return entry :: (← flowEntries handles fuel false)

end

/-- The versions that can be read. -/
def isKnownVersion (major minor : Nat) : Bool := major == 1 && (minor == 1 || minor == 2)

/-- The directives before a document: at most one version, and handles of different names. -/
def directives : (fuel : Nat) → (version : Bool) → Handles → Part Handles
  | 0, _, _ => refuse
  | fuel + 1, version, handles => do
    match ← peek with
    | some (.version major minor) =>
      skip
      if version || !isKnownVersion major minor then refuse else directives fuel true handles
    | some (.handle name expansion) =>
      skip
      if (handles.lookup name).isSome then refuse
      else directives fuel version (handles ++ [(name, expansion)])
    | _ => return handles

/-- The only document of the tokens; without any token there is no node. -/
def document (fuel : Nat) : Part Node := do
  if (← peek).isNone then return nothing
  else
    let bare := !(← comes [.documentStart]) &&
      !((← peek).any fun t => t matches .version .. | .handle ..)
    let handles ← directives fuel false []
    if !bare then expect .documentStart
    let root ←
      if (← peek).isNone || (← comes [.documentStart, .documentEnd])
          || ((← peek).any fun t => t matches .version .. | .handle ..) then
        if bare then refuse else pure nothing
      else node (handles ++ commonHandles) fuel { block := true }
    closing fuel
    return root
where
  /-- Markers of the end, and nothing after them. -/
  closing : Nat → Part Unit
    | 0 => refuse
    | fuel + 1 => do
      if ← accept .documentEnd then closing fuel
      else if (← peek).isSome then refuse

/-- The node of the only document of a text. -/
def ofText? (s : String) : Option Node := do
  let tokens ← Token.scan s.toList
  let (root, _) ← document (4 * tokens.length + 4) { tokens }
  return root

end Node

end Precis.Yaml
