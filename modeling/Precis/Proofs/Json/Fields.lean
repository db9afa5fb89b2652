import Precis.Item.Persisted
import Precis.Proofs.Json.RoundTrip

/-!
# Reading back fields

Words and texts read back from the documents that they are written as, and a record that names no
field twice gives each reader the member of its name (`slots_record`).
-/

namespace Precis.Json

open Text Document

/-! ## Words and texts -/

theorem all_isDigit_decimalDigits (n : Nat) : (decimalDigits n).all Char.isDigit = true :=
  List.all_eq_true.2 (isDigit_of_mem_decimalDigits n)

theorem int?_ofInt (n : Int) : int? (ofInt n) = some n := by
  rw [ofInt, signedDigits]
  split
  · -- a minus, and digits that are not those of zero
    rename_i hneg
    have hne : n.natAbs ≠ 0 := by omega
    have hvalue : (-(n.natAbs : Int)) = n := by omega
    rw [int?, all_isDigit_decimalDigits, ofDigits_decimalDigits]
    simp only [hvalue, ne_eq, hne, not_false_eq_true, decide_true, Bool.and_self, if_true]
  · rename_i hnonneg
    have hvalue : (n.natAbs : Int) = n := by omega
    obtain ⟨c, ds, hdigits, hc⟩ := head_decimalDigits n.natAbs
    rw [int?, all_isDigit_decimalDigits, ofDigits_decimalDigits, if_pos rfl, hvalue]
    -- no digit is a minus
    rintro s hs
    rw [hdigits] at hs
    rw [(List.cons.inj hs).1] at hc
    cases hc

theorem ofNat_eq_ofInt (n : Nat) : ofNat n = ofInt n := by
  rw [ofNat, ofInt, signedDigits, if_neg (by omega), Int.natAbs_natCast]

theorem int64?_ofInt64 (n : Int64) : int64? (ofInt64 n) = some n := by
  have hlow := n.le_toInt
  have hhigh : n.toInt ≤ 9223372036854775807 := n.toInt_le
  rw [int64?, ofInt64, int?_ofInt]
  simp only [Bool.and_eq_true, decide_eq_true_eq]
  rw [if_pos ⟨by omega, by omega⟩, Int64.ofInt_toInt]

theorem natBelow?_ofNat {bound n : Nat} (h : n < bound) : natBelow? bound (ofNat n) = some n := by
  rw [natBelow?, ofNat_eq_ofInt, int?_ofInt]
  simp only [Bool.and_eq_true, decide_eq_true_eq]
  rw [if_pos ⟨by omega, by omega⟩, Int.toNat_natCast]

theorem uint64?_ofUInt64 (n : UInt64) : uint64? (ofUInt64 n) = some n := by
  show (natBelow? 18446744073709551616 (ofNat n.toNat)).map UInt64.ofNat = some n
  rw [natBelow?_ofNat n.toNat_lt, Option.map_some, UInt64.ofNat_toNat]

theorem textOf_escape (s : List Char) : textOf (escape s) = some (String.ofList s) := by
  rw [textOf, unescape_escape, Option.map_some]

theorem orNull_nullOr {write : α → Json} {read : Json → Option α} (a : Option α)
    (hread : ∀ a, read (write a) = some a) (hnull : ∀ a, (write a).isNull = false) :
    orNull read (nullOr write a) = some a := by
  cases a with
  | none => rfl
  | some a =>
    show (some (write a).isNull).bind _ = _
    rw [hnull, Option.bind_some, nullOr, hread]
    rfl

/-! ## Records -/

/-- What a record with these members says about a field. -/
def memberSlot (members : List (String × Json)) (name : String) : Slot Json :=
  match members.lookup name with
  | some v => .given v
  | none => .missing

theorem namedMembers_escaped (members : List (String × Json)) :
    namedMembers (members.map fun f => (escape f.1.toList, f.2)) = some members := by
  induction members with
  | nil => rfl
  | cons f rest ih =>
    rw [List.map_cons, namedMembers, textOf_escape, ih, String.ofList_toList]
    rfl

theorem filter_name_eq_nil {members : List (String × Json)} {name : String}
    (h : name ∉ members.map (·.1)) : members.filter (·.1 == name) = [] := by
  rw [List.filter_eq_nil_iff]
  intro f hf heq
  exact h (List.mem_map.2 ⟨f, hf, eq_of_beq heq⟩)

theorem slotsOfMembers_of_nodup {members : List (String × Json)} (h : (members.map (·.1)).Nodup)
    (names : List String) :
    slotsOfMembers members names =
      some (names.map fun name => (name, memberSlot members name)) := by
  have hslot : ∀ name, (members.filter (·.1 == name) = [] ∧ members.lookup name = none) ∨
      ∃ v, members.filter (·.1 == name) = [(name, v)] ∧ members.lookup name = some v := by
    intro name
    induction members with
    | nil => exact Or.inl ⟨rfl, rfl⟩
    | cons f rest ih =>
      obtain ⟨k, v⟩ := f
      rw [List.map_cons, List.nodup_cons] at h
      -- a name that stands once is found, and no other member has it
      by_cases hk : k = name
      · subst hk
        right
        refine ⟨v, ?_, ?_⟩
        · rw [List.filter_cons_of_pos (by simp), filter_name_eq_nil h.1]
        · exact List.lookup_cons_self
      · rw [List.filter_cons_of_neg (by simpa using hk), List.lookup_cons,
          show (name == k) = false by simpa using fun e => hk e.symm]
        exact ih h.2
  induction names with
  | nil => rfl
  | cons name names ih =>
    rw [slotsOfMembers, ih]
    -- either no member has the name, or exactly one
    rcases hslot name with ⟨hfilter, hlookup⟩ | ⟨v, hfilter, hlookup⟩
    · simp [hfilter, memberSlot, hlookup]
    · simp [hfilter, memberSlot, hlookup]

theorem get_map_slots {names : List String} {name : String} (h : name ∈ names)
    (f : String → Slot Json) : Slots.get (names.map fun n => (n, f n)) name = f name := by
  induction names with
  | nil => cases h
  | cons n names ih =>
    rw [List.map_cons, Slots.get, List.lookup_cons]
    by_cases hn : name = n
    · subst hn
      rw [beq_self_eq_true]
      rfl
    · rw [show (name == n) = false by simpa using hn]
      exact ih ((List.mem_cons.1 h).resolve_left hn)

/-- A record that names no field twice gives each field the member of its name. -/
theorem slots_record {members : List (String × Json)} (h : (members.map (·.1)).Nodup)
    (names : List String) :
    ∃ r, slots names (record members) = some r ∧
      ∀ name ∈ names, r.get name = memberSlot members name := by
  refine ⟨names.map fun name => (name, memberSlot members name), ?_, ?_⟩
  · rw [record, slots, namedMembers_escaped]
    exact slotsOfMembers_of_nodup h names
  · intro name hname
    exact get_map_slots hname _

theorem plain_record {members : List (String × Json)} (h : ∀ f ∈ members, Plain f.2) :
    Plain (record members) := by
  refine Plain.object _ ?_ ?_
  · intro f hf
    obtain ⟨g, _, rfl⟩ := List.mem_map.1 hf
    exact ⟨g.1.toList, rfl⟩
  · intro f hf
    obtain ⟨g, hg, rfl⟩ := List.mem_map.1 hf
    exact h g hg

theorem plain_nullOr {write : α → Json} (a : Option α) (h : ∀ a, Plain (write a)) :
    Plain (nullOr write a) := by
  cases a with
  | none => exact Plain.null
  | some a => exact h a

end Precis.Json
