import Precis.Proofs.Json.Fields
import Precis.Proofs.Time.Written
import Precis.Source.Cursor

/-!
# Checkpoints

`ofCheckpoint?_checkpoint`: the stored text of a cursor reads back as the cursor. A timestamp is
written with characters that need no escape.
-/

namespace Precis

open Text Document
open Json (escape escapeChar Plain memberSlot)

/-! ## Timestamps in Json -/

namespace Time.Timestamp

/-- Stands in a string as it is. -/
def IsUnescaped (c : Char) : Prop := escapeChar c = [c]

theorem isUnescaped_of_isDigit {c : Char} (h : c.isDigit = true) : IsUnescaped c := by
  simp only [Char.isDigit, Bool.and_eq_true, decide_eq_true_eq, UInt32.le_iff_toNat_le] at h
  have hlow : (48 : Nat) ≤ c.toNat := h.1
  have hhigh : c.toNat ≤ 57 := h.2
  have hne : ∀ d : Char, d.toNat < 48 ∨ 57 < d.toNat → c ≠ d := by
    rintro d hd rfl
    omega
  rw [IsUnescaped, escapeChar, if_neg (hne '"' (by decide)), if_neg (hne '\\' (by decide)),
    if_neg (hne '\n' (by decide)), if_neg (hne '\r' (by decide)), if_neg (hne '\t' (by decide)),
    if_neg (hne '\x08' (by decide)), if_neg (hne '\x0c' (by decide)), if_neg (by omega)]

theorem isUnescaped_paddedDigits (w n : Nat) : ∀ c ∈ paddedDigits w n, IsUnescaped c :=
  fun c hc => isUnescaped_of_isDigit (isDigit_of_mem_paddedDigits w n c hc)

theorem isUnescaped_writeYear (y : Int) : ∀ c ∈ writeYear y, IsUnescaped c := by
  rw [writeYear]
  split
  · exact isUnescaped_paddedDigits 4 _
  · rw [List.forall_mem_cons]
    refine ⟨?_, isUnescaped_paddedDigits 4 _⟩
    split <;> rfl

theorem isUnescaped_writeFraction (nanos : Nat) : ∀ c ∈ writeFraction nanos, IsUnescaped c := by
  have hpoint : ∀ w n, ∀ c ∈ '.' :: paddedDigits w n, IsUnescaped c := by
    intro w n
    rw [List.forall_mem_cons]
    exact ⟨rfl, isUnescaped_paddedDigits w n⟩
  rw [writeFraction]
  split
  · simp
  split
  · exact hpoint 3 _
  split
  · exact hpoint 6 _
  · exact hpoint 9 _

theorem isUnescaped_write (t : Timestamp) : ∀ c ∈ t.write, IsUnescaped c := by
  simp only [write, List.forall_mem_append, List.forall_mem_cons]
  have hdigits := isUnescaped_paddedDigits 2
  refine ⟨⟨⟨⟨⟨⟨⟨isUnescaped_writeYear _, rfl, hdigits _⟩, rfl, hdigits _⟩, rfl, hdigits _⟩, rfl,
    hdigits _⟩, rfl, hdigits _⟩, isUnescaped_writeFraction _⟩, rfl, ?_⟩
  simp

theorem escape_write (t : Timestamp) : escape t.write = t.write := by
  have h := isUnescaped_write t
  generalize t.write = s at h
  induction s with
  | nil => rfl
  | cons c s ih =>
    have hc : escapeChar c = [c] := h c List.mem_cons_self
    rw [escape, List.flatMap_cons, hc, ← escape, ih fun d hd => h d (List.mem_cons_of_mem c hd)]
    rfl

theorem plain_toJson (t : Timestamp) : Plain t.toJson := by
  rw [toJson, ← escape_write]
  exact Plain.text _

theorem ofJson?_toJson (t : Timestamp) : ofJson? t.toJson = some t := by
  rw [ofJson?, toJson, ← escape_write, Json.text?, Json.textOf_escape, Option.bind_some, ofText?,
    String.toList_ofList, read?_write]

end Time.Timestamp

/-! ## Cursors -/

namespace Cursor

theorem plain_toJson (c : Cursor) : Plain c.toJson := by
  refine Json.plain_record ?_
  intro f hf
  simp only [List.mem_cons, List.not_mem_nil, or_false] at hf
  rcases hf with rfl | rfl | rfl
  · exact Json.plain_nullOr _ Time.Timestamp.plain_toJson
  · exact Json.plain_nullOr _ fun n => Plain.integer n.toInt
  · show Plain (Json.ofNat _)
    rw [Json.ofNat_eq_ofInt]
    exact Plain.integer _

theorem ofJson?_toJson (c : Cursor) : ofJson? c.toJson = some c := by
  let members : List (String × Json) :=
    [("last_timestamp", Json.nullOr Time.Timestamp.toJson c.lastTimestamp),
     ("last_id", Json.nullOr Json.ofInt64 c.lastId), ("read_count", Json.ofUInt64 c.processed)]
  have hnames : (members.map (·.1)).Nodup := by simp [members]
  obtain ⟨r, hr, hget⟩ := Json.slots_record hnames ["last_timestamp", "last_id", "read_count"]
  -- each field is found under its name, and reads back by its own law
  have htimestamp := hget "last_timestamp" (by simp)
  have hid := hget "last_id" (by simp)
  have hcount := hget "read_count" (by simp)
  simp only [members, memberSlot, List.lookup_cons, List.lookup_nil] at htimestamp hid hcount
  have hr' : slots ["last_timestamp", "last_id", "read_count"] c.toJson = some r := hr
  rw [ofJson?, hr']
  simp [htimestamp, hid, hcount, Slot.nullable, Slot.required,
    Json.orNull_nullOr _ Time.Timestamp.ofJson?_toJson (fun _ => rfl),
    Json.orNull_nullOr _ Json.int64?_ofInt64 (fun _ => rfl), Json.uint64?_ofUInt64]

/-- The stored text of a cursor reads back as the cursor. -/
theorem ofCheckpoint?_checkpoint (c : Cursor) : ofCheckpoint? c.checkpoint = some c := by
  rw [ofCheckpoint?, checkpoint, Json.parse_render c.plain_toJson, Option.bind_some,
    ofJson?_toJson]

end Cursor

end Precis
