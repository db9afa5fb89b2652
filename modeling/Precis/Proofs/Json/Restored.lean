import Precis.Item.Persisted
import Precis.Proofs.Json.Fields

/-!
# Values that read back

A writer and a reader of values belong together when the reader gets every value back from the
document that the writer made of it, and when that document is plain, so that its text can be read,
and not null, so that it can stand for a value that may be missing (`Restores`). `Restores.parse`
carries this over to texts.

A record is read field by field: `required_get`, `withDefault_get`, `Restores.nullable_get` and
`Restores.skippable_get` say what the reader of a field gets when the record has this member or
none.
-/

namespace Precis.Json

open Document

variable {α : Type} {write : α → Json} {read : Json → Option α}

/-- What is written is plain, is not null, and reads back. -/
structure Restores (write : α → Json) (read : Json → Option α) : Prop where
  plain : ∀ a, Plain (write a)
  isNull : ∀ a, (write a).isNull = false
  read_write : ∀ a, read (write a) = some a

/-- A value reads back from the text of its document. -/
theorem Restores.parse (h : Restores write read) (a : α) :
    (Json.parse (write a).render).bind read = some a := by
  rw [parse_render (h.plain a), Option.bind_some, h.read_write]

/-! ## Words, texts and lists -/

theorem restores_text : Restores ofText Document.text? where
  plain s := Plain.text s.toList
  isNull _ := rfl
  read_write s := by
    show textOf (escape s.toList) = some s
    rw [textOf_escape, String.ofList_toList]

theorem restores_bool : Restores Json.bool Document.bool? where
  plain := Plain.bool
  isNull _ := rfl
  read_write _ := rfl

theorem restores_int64 : Restores ofInt64 int64? where
  plain n := Plain.integer n.toInt
  isNull _ := rfl
  read_write := int64?_ofInt64

theorem plain_ofNat (n : Nat) : Plain (ofNat n) := by
  rw [ofNat_eq_ofInt]
  exact Plain.integer n

theorem restores_uint64 : Restores ofUInt64 uint64? where
  plain n := plain_ofNat n.toNat
  isNull _ := rfl
  read_write := uint64?_ofUInt64

theorem restores_uint32 : Restores ofUInt32 uint32? where
  plain n := plain_ofNat n.toNat
  isNull _ := rfl
  read_write n := by
    show (natBelow? 4294967296 (ofNat n.toNat)).map UInt32.ofNat = some n
    rw [natBelow?_ofNat n.toNat_lt, Option.map_some, UInt32.ofNat_toNat]

theorem Restores.list (h : Restores write read) :
    Restores (fun as => array (as.map write)) (list? read) where
  plain as := by
    refine Plain.array _ ?_
    intro v hv
    obtain ⟨a, _, rfl⟩ := List.mem_map.1 hv
    exact h.plain a
  isNull _ := rfl
  read_write as := by
    show (as.map write).mapM read = some as
    induction as with
    | nil => rfl
    | cons a rest ih => simp [h.read_write a, ih]

/-- A value that may be missing, written as null. -/
theorem Restores.orNull_nullOr (h : Restores write read) (a : Option α) :
    orNull read (nullOr write a) = some a :=
  Json.orNull_nullOr a h.read_write h.isNull

/-! ## Fields -/

variable {members : List (String × Json)} {name : String} {r : Slots Json} {v : Json}

theorem required_get {a : α} (hget : r.get name = memberSlot members name)
    (hlookup : members.lookup name = some v) (hread : read v = some a) :
    (r.get name).required read = some a := by
  rw [hget, memberSlot, hlookup]
  exact hread

theorem withDefault_get (default : α) {a : α} (hget : r.get name = memberSlot members name)
    (hlookup : members.lookup name = some v) (hread : read v = some a) :
    (r.get name).withDefault default read = some a := by
  rw [hget, memberSlot, hlookup]
  exact hread

theorem Restores.nullable_get (h : Restores write read) {a : Option α}
    (hget : r.get name = memberSlot members name)
    (hlookup : members.lookup name = some (nullOr write a)) :
    (r.get name).nullable read = some a := by
  rw [hget, memberSlot, hlookup]
  exact h.orNull_nullOr a

/-- A field that is left out when there is no value. -/
theorem Restores.skippable_get (h : Restores write read) {a : Option α}
    (hget : r.get name = memberSlot members name) (hlookup : members.lookup name = a.map write) :
    (r.get name).withDefault none (orNull read) = some a := by
  rw [hget, memberSlot, hlookup]
  cases a with
  | none => rfl
  | some a => exact h.orNull_nullOr (some a)

/-! ## Records -/

/-- A record reads back when no name stands twice in it, its members are plain, and the readers of
its fields find them among the members. -/
theorem restores_record {members : α → List (String × Json)} {names : List String}
    {fill : Slots Json → Option α} (hnames : ∀ a, ((members a).map (·.1)).Nodup)
    (hplain : ∀ a, ∀ f ∈ members a, Plain f.2)
    (hfill : ∀ a (r : Slots Json), (∀ name ∈ names, r.get name = memberSlot (members a) name) →
      fill r = some a) :
    Restores (fun a => record (members a)) (fun v => (slots names v).bind fill) where
  plain a := plain_record (hplain a)
  isNull _ := rfl
  read_write a := by
    obtain ⟨r, hslots, hget⟩ := slots_record (hnames a) names
    rw [hslots, Option.bind_some, hfill a r hget]

/-! ## Members that may be left out -/

theorem lookup_field? (name key : String) (v : Option Json) :
    (field? name v).lookup key = if key = name then v else none := by
  -- with a value there is the one member of this name
  cases v with
  | none => simp [field?]
  | some v =>
    by_cases hkey : key = name
    · rw [if_pos hkey, hkey]
      exact List.lookup_cons_self
    · rw [if_neg hkey, field?, List.lookup_cons, show (key == name) = false by simpa using hkey]
      rfl

theorem names_field?_sublist (name : String) (v : Option Json) :
    ((field? name v).map (·.1)).Sublist [name] := by
  cases v with
  | none => exact List.nil_sublist _
  | some v => exact List.Sublist.refl _

theorem Restores.plain_field? (h : Restores write read) (name : String) (a : Option α) :
    ∀ f ∈ field? name (a.map write), Plain f.2 := by
  intro f hf
  cases a with
  | none => cases hf
  | some a =>
    -- there is at most one member to look at
    rw [List.mem_singleton.1 hf]
    exact h.plain a

end Precis.Json
