/-!
# Documents

Records are read from documents of several formats: Json, and the markup of settings files. The
class `Document` lists what a format has to offer. A field that a record leaves out is either
required, or empty, or has a default; `Slot` says in which way a field was met, and its readers say
what each wants.
-/

namespace Precis

/-- What a record says about one of its fields. -/
inductive Slot (δ : Type) where
  | given (v : δ)
  /-- The record names its fields, and not this one. -/
  | missing
  /-- The record lists its fields in order and ends before this one. -/
  | cutShort
  deriving Inhabited

/-- The fields of a record, by name. -/
abbrev Slots (δ : Type) := List (String × Slot δ)

/-- The slot of a field. -/
def Slots.get (slots : Slots δ) (name : String) : Slot δ := (slots.lookup name).getD .missing

/-- One slot for each name: the only member of this name, or none. -/
def slotsOfMembers (members : List (String × δ)) : List String → Option (Slots δ)
  | [] => some []
  | name :: names => do
    let rest ← slotsOfMembers members names
    match members.filter (·.1 == name) with
    | [] => return (name, .missing) :: rest
    | [(_, v)] => return (name, .given v) :: rest
    | _ => none

/-- A format that records are read from. -/
class Document (δ : Type) where
  /-- The slots of a record with fields of these names; no field stands twice. -/
  slots : List String → δ → Option (Slots δ)
  /-- Stands for no value, or not; none where it says that it does and holds a value. -/
  isNull? : δ → Option Bool
  /-- A text. -/
  text? : δ → Option String
  /-- A truth value. -/
  bool? : δ → Option Bool
  /-- A natural number below a bound. -/
  natBelow? : Nat → δ → Option Nat
  /-- A double. -/
  float? : δ → Option Float
  /-- The name of a variant. -/
  variant? : δ → Option String
  /-- The members of a table with free names. -/
  entries? : δ → Option (List (String × δ))

namespace Document

variable [Document δ]

/-- A 64-bit word. -/
def uint64? (v : δ) : Option UInt64 := (natBelow? 18446744073709551616 v).map UInt64.ofNat

/-- A 32-bit word. -/
def uint32? (v : δ) : Option UInt32 := (natBelow? 4294967296 v).map UInt32.ofNat

/-- A value or nothing. -/
def orNull (read : δ → Option α) (v : δ) : Option (Option α) :=
  (isNull? v).bind fun null => if null then some none else (read v).map some

end Document

namespace Slot

/-- A field that must be given. -/
def required (read : δ → Option α) : Slot δ → Option α
  | given v => read v
  | _ => none

/-- A field that may be left out for `default`. -/
def withDefault (default : α) (read : δ → Option α) : Slot δ → Option α
  | given v => read v
  | _ => some default

/-- A field that may be null, and may be missing where fields are named. -/
def nullable [Document δ] (read : δ → Option α) : Slot δ → Option (Option α)
  | given v => Document.orNull read v
  | missing => some none
  | cutShort => none

end Slot

end Precis
