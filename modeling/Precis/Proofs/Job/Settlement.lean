import Mathlib.Data.List.Nodup
import Precis.Job.Settlement
import Precis.Proofs.Dispatch.Conservation

/-!
# Settled pages

The items of a page have distinct ids, so each of them is settled under its own: it is written with
the summary of its id, as it was read, or else as failed (`exists_summary_of_any`,
`exists_note_of_mem_unsettled`).
-/

namespace Precis.Settlement

theorem findLast?_eq_some {p : α → Bool} {xs : List α} {x : α} (h : findLast? p xs = some x) :
    x ∈ xs ∧ p x = true := by
  rw [findLast?] at h
  exact ⟨List.mem_reverse.1 (List.mem_of_find?_eq_some h), List.find?_some h⟩

theorem findLast?_eq_none {p : α → Bool} {xs : List α} (h : findLast? p xs = none) :
    ∀ x ∈ xs, p x = false := by
  intro x hx
  rw [findLast?, List.find?_eq_none] at h
  simpa using h x (List.mem_reverse.2 hx)

theorem eq_of_id_eq {page : List Item} (hids : (page.map (·.id)).Nodup) {a b : Item} (ha : a ∈ page)
    (hb : b ∈ page) (h : a.id = b.id) : a = b := List.inj_on_of_nodup_map hids ha hb h

/-- An item is found by its id. -/
theorem findLast?_id {page : List Item} (hids : (page.map (·.id)).Nodup) {item : Item}
    (hitem : item ∈ page) : findLast? (·.id == item.id) page = some item := by
  cases h : findLast? (·.id == item.id) page with
  | none =>
    have hnot := findLast?_eq_none h item hitem
    rw [beq_self_eq_true] at hnot
    cases hnot
  | some found =>
    obtain ⟨hfound, hid⟩ := findLast?_eq_some h
    rw [eq_of_id_eq hids hfound hitem (eq_of_beq hid)]

/-- The items without a summary. -/
def unsettled (page : List Item) (summaries : List SummarizedItem) : List Item :=
  page.filter fun item => !summaries.any (·.item.id == item.id)

theorem unsettled_nil (page : List Item) : unsettled page [] = page :=
  List.filter_eq_self.2 fun _ _ => rfl

variable {page : List Item} {successes : List SummarizedItem} {item : Item}

theorem mem_unsettled {summaries : List SummarizedItem} : item ∈ unsettled page summaries ↔
    item ∈ page ∧ summaries.any (·.item.id == item.id) = false := by
  rw [unsettled, List.mem_filter, Bool.not_eq_true']

/-- An item whose id has a summary is written with one, as it was read. -/
theorem exists_summary_of_any (hids : (page.map (·.id)).Nodup) (hitem : item ∈ page)
    (h : (summarizedItems page successes).any (·.item.id == item.id) = true) :
    ∃ summary, ⟨item, summary⟩ ∈ summarizedItems page successes := by
  obtain ⟨written, hwritten, hid⟩ := List.any_eq_true.1 h
  obtain ⟨s, hs, rfl⟩ := List.mem_map.1 hwritten
  refine ⟨s.summary, List.mem_map.2 ⟨s, hs, ?_⟩⟩
  -- the item that was found has the id of the summary, so it is the one of the page
  cases hfound : findLast? (·.id == s.item.id) page with
  | none =>
    rw [hfound] at hid
    have hnot := findLast?_eq_none hfound item hitem
    rw [beq_eq_false_iff_ne] at hnot
    exact absurd (eq_of_beq hid).symm hnot
  | some found =>
    rw [hfound] at hid
    have hsame := eq_of_id_eq hids (findLast?_eq_some hfound).1 hitem (eq_of_beq hid)
    rw [hsame]

/-- An item whose id has no summary is written as failed. -/
theorem exists_note_of_mem_unsettled {summaries : List SummarizedItem} (failures : List Failure)
    (h : item ∈ unsettled page summaries) :
    ∃ note, { item with failure := some note } ∈ failedItems page summaries failures :=
  ⟨noteFor failures item, List.mem_map.2 ⟨item, h, rfl⟩⟩

/-! ## Settling what was sent -/

section

variable {sent : List Item} {failures : List Failure}

theorem map_id_summarizedItems (page : List Item) (successes : List SummarizedItem) :
    (summarizedItems page successes).map (·.item.id) = successes.map (·.item.id) := by
  rw [summarizedItems, List.map_map]
  refine List.map_congr_left ?_
  intro s _
  dsimp only [Function.comp]
  split
  · rename_i found hfound
    exact eq_of_beq (findLast?_eq_some hfound).2
  · rfl

theorem mem_page_of_mem_summarizedItems (hsent : ∀ s ∈ successes, s.item.id ∈ page.map (·.id)) :
    ∀ s ∈ summarizedItems page successes, s.item ∈ page := by
  intro written hwritten
  obtain ⟨s, hs, rfl⟩ := List.mem_map.1 hwritten
  obtain ⟨item, hitem, hid⟩ := List.mem_map.1 (hsent s hs)
  split
  · rename_i found hfound
    exact (findLast?_eq_some hfound).1
  · rename_i hnone
    have hnot := findLast?_eq_none hnone item hitem
    rw [beq_eq_false_iff_ne] at hnot
    exact absurd hid hnot

/-- Items of a page are known from their ids. -/
theorem filterMap_findLast? {items : List Item} (hids : (page.map (·.id)).Nodup)
    (hitems : ∀ item ∈ items, item ∈ page) :
    (items.map (·.id)).filterMap (fun id => findLast? (·.id == id) page) = items := by
  rw [List.filterMap_map]
  have hsome : ∀ item ∈ items, findLast? (·.id == item.id) page = some item :=
    fun item hitem => findLast?_id hids (hitems item hitem)
  exact (List.filterMap_congr hsome).trans List.filterMap_some

/-- Items of a page whose ids stand in its order stand in it themselves. -/
theorem sublist_of_ids {items : List Item} (hids : (page.map (·.id)).Nodup)
    (hitems : ∀ item ∈ items, item ∈ page) (h : (items.map (·.id)).Sublist (page.map (·.id))) :
    items.Sublist page := by
  obtain ⟨others, hothers, heq⟩ := List.sublist_map_iff.1 h
  have hsame : items = others := by
    rw [← filterMap_findLast? hids hitems, heq,
      filterMap_findLast? hids fun _ h => hothers.subset h]
  rw [hsame]
  exact hothers

variable (hids : (page.map (·.id)).Nodup) (hsent : sent.map (·.id) = page.map (·.id))
  (hdivides : Divides sent successes failures)

include hsent hdivides

theorem ids_successes_sublist : (successes.map (·.item.id)).Sublist (page.map (·.id)) := by
  have h := hdivides.successes_sublist.map (·.id)
  rw [List.map_map, hsent] at h
  exact h

theorem ids_perm :
    (successes.map (·.item.id) ++ failures.map (·.item.id)).Perm (page.map (·.id)) := by
  have h := hdivides.perm.map (·.id)
  rw [List.map_append, List.map_map, List.map_map, hsent] at h
  exact h

/-- An item without a summary failed, and its note is the one of that failure. -/
theorem exists_failure_of_mem_unsettled {item : Item}
    (h : item ∈ unsettled page (summarizedItems page successes)) :
    ∃ f ∈ failures, f.item.id = item.id ∧ noteFor failures item = f.note := by
  obtain ⟨hitem, hany⟩ := mem_unsettled.1 h
  have hid := (ids_perm hsent hdivides).mem_iff.2 (List.mem_map_of_mem hitem)
  -- the id is not among the summaries, so it is among the failures
  have hfailed : item.id ∈ failures.map (·.item.id) := by
    rcases List.mem_append.1 hid with hsuccess | hfailed
    · rw [← map_id_summarizedItems page successes] at hsuccess
      obtain ⟨s, hs, heq⟩ := List.mem_map.1 hsuccess
      rw [List.any_eq_false] at hany
      exact absurd (beq_iff_eq.2 heq) (hany s hs)
    · exact hfailed
  obtain ⟨f, hf, heq⟩ := List.mem_map.1 hfailed
  rw [noteFor]
  cases hfound : findLast? (·.item.id == item.id) failures with
  | none =>
    have hnot := findLast?_eq_none hfound f hf
    rw [beq_eq_false_iff_ne] at hnot
    exact absurd heq hnot
  | some g =>
    obtain ⟨hg, hgid⟩ := findLast?_eq_some hfound
    exact ⟨g, hg, eq_of_beq hgid, rfl⟩

include hids

/-- The summaries have their items as they were read, in the order of the page. -/
theorem summarizedItems_sublist :
    ((summarizedItems page successes).map (·.item)).Sublist page := by
  have hsub := ids_successes_sublist hsent hdivides
  apply sublist_of_ids hids
  · intro item hitem
    obtain ⟨s, hs, rfl⟩ := List.mem_map.1 hitem
    refine mem_page_of_mem_summarizedItems ?_ s hs
    intro s hs
    exact hsub.subset (List.mem_map_of_mem hs)
  · rw [List.map_map]
    exact (congrArg (List.Sublist · _) (map_id_summarizedItems page successes)).mpr hsub

/-- Each item of the page has a summary or has none. -/
theorem summarizedItems_perm :
    ((summarizedItems page successes).map (·.item)
      ++ unsettled page (summarizedItems page successes)).Perm page := by
  have hsub := summarizedItems_sublist hids hsent hdivides
  have hpage : page.Nodup := List.Nodup.of_map _ hids
  -- both sides hold the same items, and each item once
  refine (List.perm_ext_iff_of_nodup ?_ hpage).2 ?_
  · rw [List.nodup_append]
    refine ⟨hpage.sublist hsub, hpage.sublist List.filter_sublist, ?_⟩
    rintro item hitem other hother rfl
    obtain ⟨s, hs, rfl⟩ := List.mem_map.1 hitem
    have hany := (mem_unsettled.1 hother).2
    rw [List.any_eq_false] at hany
    exact hany s hs (beq_self_eq_true _)
  · intro item
    rw [List.mem_append]
    constructor
    · rintro (hitem | hitem)
      · exact hsub.subset hitem
      · exact (mem_unsettled.1 hitem).1
    · intro hitem
      cases hany : (summarizedItems page successes).any (·.item.id == item.id) with
      | true =>
        obtain ⟨summary, hsummary⟩ := exists_summary_of_any hids hitem hany
        exact Or.inl (List.mem_map.2 ⟨_, hsummary, rfl⟩)
      | false => exact Or.inr (mem_unsettled.2 ⟨hitem, hany⟩)

end

end Precis.Settlement
