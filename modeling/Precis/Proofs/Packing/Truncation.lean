import Precis.Packing.Truncation

/-!
# What truncation keeps

An item that is too long keeps the first characters of its content, as many as the budget has room
for, and the marker comes after them; so it is longer than its room and would be cut again. That
does no harm: what the second cut keeps lies before the marker of the first one
(`take_keep_append`), so cutting to a room and then to one that is no larger is the same as cutting
to the second one at once (`Truncator.keep_keep`).
-/

namespace Precis

namespace Truncator

/-- The characters that a smaller cut keeps do not reach what comes after a larger one. -/
theorem take_keep_append {m n : Nat} (h : m ≤ n) {l : List Char} (hn : n ≤ l.length)
    (rest : List Char) : (l.take n ++ rest).take m = l.take m := by
  have hlength : m ≤ (l.take n).length := by
    rw [List.length_take]
    omega
  rw [List.take_append_of_le_length hlength, List.take_take, Nat.min_eq_left h]

/-! ## Cutting a text -/

@[simp] theorem toList_cut (n : Nat) (content : String) :
    (cut n content).toList = content.toList.take n ++ marker.toList :=
  String.toList_ofList

theorem length_cut {n : Nat} {content : String} (h : n ≤ content.length) :
    (cut n content).length = n + marker.length := by
  rw [← String.length_toList, toList_cut, List.length_append, List.length_take,
    String.length_toList, String.length_toList, Nat.min_eq_left h]

theorem cut_cut {m n : Nat} (h : m ≤ n) {content : String} (hn : n ≤ content.length) :
    cut m (cut n content) = cut m content := by
  rw [← String.length_toList] at hn
  rw [cut, toList_cut, take_keep_append h hn]
  rfl

/-! ## Cutting an item -/

variable {m n : Nat} {item : Item}

theorem keep_of_le (h : item.content.length ≤ n) : keep n item = item := if_pos h

theorem keep_of_lt (h : n < item.content.length) :
    keep n item = { item with content := cut n item.content, truncated := true } :=
  if_neg (Nat.not_le_of_lt h)

theorem title_keep (n : Nat) (item : Item) : (keep n item).title = item.title := by
  rcases Nat.lt_or_ge n item.content.length with hlong | hshort
  · rw [keep_of_lt hlong]
  · rw [keep_of_le hshort]

theorem length_keep_le (n : Nat) (item : Item) :
    (keep n item).content.length ≤ item.content.length + marker.length := by
  rcases Nat.lt_or_ge n item.content.length with hlong | hshort
  · rw [keep_of_lt hlong, length_cut (Nat.le_of_lt hlong)]
    exact Nat.add_le_add_right (Nat.le_of_lt hlong) _
  · rw [keep_of_le hshort]
    exact Nat.le_add_right _ _

/-- Of two cuts the second one decides, when it leaves no more room than the first. -/
theorem keep_keep (h : m ≤ n) (item : Item) : keep m (keep n item) = keep m item := by
  rcases Nat.lt_or_ge n item.content.length with hlong | hshort
  · have hn := Nat.le_of_lt hlong
    -- the marker makes the cut content longer than any room up to `n`
    have hagain :
        m < { item with content := cut n item.content, truncated := true }.content.length := by
      show m < (cut n item.content).length
      rw [length_cut hn]
      exact Nat.lt_of_le_of_lt h (Nat.lt_add_of_pos_right (by decide))
    rw [keep_of_lt hlong, keep_of_lt (Nat.lt_of_le_of_lt h hlong), keep_of_lt hagain, cut_cut h hn]
  · rw [keep_of_le hshort]

/-- An item that fits its budget stays as it is. Of any other one just the first characters stay
that the budget has room for, with the marker after them, and it is marked as cut. A second cut to
the same budget changes nothing, and one to a budget with no more room gives what that budget alone
gives. -/
theorem truncate_laws (t : Truncator) (item : Item) (budget : UInt64) :
    (item.content.length ≤ (t.maxChars budget).toNat → t.truncate item budget = item) ∧
      ((t.maxChars budget).toNat < item.content.length →
        ∃ content : String,
          content.toList = item.content.toList.take (t.maxChars budget).toNat ++ marker.toList ∧
            t.truncate item budget = { item with content, truncated := true }) ∧
      t.truncate (t.truncate item budget) budget = t.truncate item budget ∧
      ∀ other, t.maxChars other ≤ t.maxChars budget →
        t.truncate (t.truncate item budget) other = t.truncate item other := by
  refine ⟨keep_of_le, ?_, keep_keep (Nat.le_refl _) item, ?_⟩
  · intro hlong
    exact ⟨cut _ item.content, toList_cut _ _, keep_of_lt hlong⟩
  · intro other hother
    exact keep_keep (UInt64.le_iff_toNat_le.1 hother) item

/-- A token a character. -/
def whole : Truncator := ofTokensPerChar 1

/-- A post of five characters, two bytes each. -/
def accented : Item := { id := 1, title := "t", content := "ééééé", timestamp := .epoch }

/-- Cut to three characters and then to two, each time at the end of a character. -/
theorem truncate_laws_accented :
    whole.maxChars 2 ≤ whole.maxChars 3 ∧ (whole.maxChars 3).toNat < accented.content.length ∧
      whole.truncate (whole.truncate accented 3) 2 = whole.truncate accented 2 ∧
      (whole.truncate accented 2).content = "éé... [truncated]" := by
  have hroom : whole.maxChars 2 ≤ whole.maxChars 3 := by decide +kernel
  have hlong : (whole.maxChars 3).toNat < accented.content.length := by decide +kernel
  exact ⟨hroom, hlong, (truncate_laws whole accented 3).2.2.2 2 hroom, by decide +kernel⟩

end Truncator

end Precis
