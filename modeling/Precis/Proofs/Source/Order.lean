import Precis.Source.Memory
import Precis.Source.Pager

/-!
# The order of a source

Positions are in a strict total order, and the source in memory keeps its items in it:
`ascending_ofList`, for items of distinct ids inserted in any order. What such a source hands out
after a cursor up to some item is all that it has between the two (`mem_of_not_lt_last`).
-/

namespace Precis

open Time

/-! ## Positions -/

theorem Time.Timestamp.lt_trans {a b c : Timestamp} (hab : a < b) (hbc : b < c) : a < c := by
  rw [Timestamp.lt_iff] at hab hbc ⊢
  omega

theorem Time.Timestamp.lt_irrefl (a : Timestamp) : ¬ a < a := by
  intro h
  rw [Timestamp.lt_iff] at h
  omega

namespace Position

variable {p q r : Position}

theorem lt_irrefl (p : Position) : ¬ p < p := by
  intro h
  rcases lt_iff.1 h with h | ⟨_, h⟩
  · exact p.timestamp.lt_irrefl h
  · exact Int64.lt_irrefl h

theorem lt_trans (hpq : p < q) (hqr : q < r) : p < r := by
  rcases lt_iff.1 hpq with hpq | ⟨epq, hpq⟩
  · rcases lt_iff.1 hqr with hqr | ⟨eqr, _⟩
    · exact Or.inl (Timestamp.lt_trans hpq hqr)
    · exact Or.inl (eqr ▸ hpq)
  · rcases lt_iff.1 hqr with hqr | ⟨eqr, hqr⟩
    · exact Or.inl (epq ▸ hqr)
    · exact Or.inr ⟨epq.trans eqr, Int64.lt_trans hpq hqr⟩

theorem lt_asymm (hpq : p < q) : ¬ q < p := by
  intro hqp
  exact lt_irrefl p (lt_trans hpq hqp)

theorem lt_trichotomy (p q : Position) : p < q ∨ p = q ∨ q < p := by
  -- first by the time, and at the same time by the id
  rcases Timestamp.lt_trichotomy p.timestamp q.timestamp with h | h | h
  · exact Or.inl (Or.inl h)
  · have hids : p.id < q.id ∨ p.id = q.id ∨ q.id < p.id := by
      rw [Int64.lt_iff_toInt_lt, Int64.lt_iff_toInt_lt, ← Int64.toInt_inj]
      omega
    rcases hids with hid | hid | hid
    · exact Or.inl (Or.inr ⟨h, hid⟩)
    · exact Or.inr (Or.inl (Position.ext h hid))
    · exact Or.inr (Or.inr (Or.inr ⟨h.symm, hid⟩))
  · exact Or.inr (Or.inr (Or.inl h))

/-- What is not before `q` is not before anything that is before `q`. -/
theorem not_lt_trans (hqp : ¬ q < p) (hrq : ¬ r < q) : ¬ r < p := by
  intro hrp
  rcases lt_trichotomy r q with h | h | h
  · exact hrq h
  · exact hqp (h ▸ hrp)
  · exact hqp (lt_trans h hrp)

end Position

/-! ## Ascending items -/

/-- The items stand in strictly ascending order. -/
def Ascending (items : List Item) : Prop := items.Pairwise (·.position < ·.position)

theorem isAscending_iff (items : List Item) : Pager.isAscending items = true ↔ Ascending items := by
  induction items with
  | nil => simp [Pager.isAscending, Ascending]
  | cons a rest ih =>
    cases rest with
    | nil => simp [Pager.isAscending, Ascending]
    | cons b rest =>
      rw [Pager.isAscending, Bool.and_eq_true, decide_eq_true_eq, ih, Ascending, Ascending,
        List.pairwise_cons (a := a)]
      -- the head comes before the next one, and so before all of them
      constructor
      · rintro ⟨hab, hrest⟩
        refine ⟨?_, hrest⟩
        rw [List.forall_mem_cons]
        exact ⟨hab, fun c hc => Position.lt_trans hab ((List.pairwise_cons.1 hrest).1 c hc)⟩
      · rintro ⟨ha, hrest⟩
        exact ⟨ha b List.mem_cons_self, hrest⟩

/-- Of ascending items the first ones are all those that do not come after the last of them. -/
theorem mem_of_not_lt_last {items page : List Item} (hitems : Ascending items)
    (hpage : page <+: items) {last item : Item} (hlast : page.getLast? = some last)
    (hitem : item ∈ items)
    (h : ¬ last.position < item.position) : item ∈ page := by
  obtain ⟨rest, rfl⟩ := hpage
  rcases List.mem_append.1 hitem with hmem | hmem
  · exact hmem
  · exact absurd ((List.pairwise_append.1 hitems).2.2 last (List.mem_of_getLast? hlast) item hmem) h

/-- Of ascending items none comes after the last one. -/
theorem not_lt_last {items : List Item} (hitems : Ascending items) {last item : Item}
    (hlast : items.getLast? = some last) (hitem : item ∈ items) :
    ¬ last.position < item.position := by
  obtain ⟨front, rfl⟩ := List.getLast?_eq_some_iff.1 hlast
  rcases List.mem_append.1 hitem with hfront | hitem
  · exact Position.lt_asymm ((List.pairwise_append.1 hitems).2.2 item hfront last
      (List.mem_singleton_self last))
  · rw [List.mem_singleton.1 hitem]
    exact Position.lt_irrefl _

/-! ## Cursors -/

namespace Cursor

theorem precedes_eq_false_iff {c : Cursor} {item : Item} :
    c.precedes item = false ↔ ∃ p, c.position = some p ∧ ¬ p < item.position := by
  rw [precedes]
  cases c.position with
  | none => simp
  | some p => simp

theorem precedes_iff {c : Cursor} {p : Position} (h : c.position = some p) (item : Item) :
    c.precedes item = true ↔ p < item.position := by
  rw [precedes, h, decide_eq_true_iff]

/-- A cursor that stands before an item stands before what comes after the item. -/
theorem precedes_of_lt {c : Cursor} {a b : Item} (ha : c.precedes a = true)
    (hab : a.position < b.position) : c.precedes b = true := by
  rw [← Bool.not_eq_false, precedes_eq_false_iff]
  rintro ⟨p, hp, hnot⟩
  exact hnot (Position.lt_trans ((precedes_iff hp a).1 ha) hab)

/-- What a cursor has passed comes before what it has not. -/
theorem lt_of_precedes {c : Cursor} {a b : Item} (ha : c.precedes a = false)
    (hb : c.precedes b = true) : a.position < b.position := by
  obtain ⟨p, hp, hnot⟩ := precedes_eq_false_iff.1 ha
  have hpb := (precedes_iff hp b).1 hb
  rcases Position.lt_trichotomy a.position p with h | h | h
  · -- the cursor's position lies between them
    exact Position.lt_trans h hpb
  · exact h ▸ hpb
  · exact absurd h hnot

theorem position_advance {page : List Item} {last : Item} (h : page.getLast? = some last)
    (c : Cursor) : (c.advance page).position = some last.position := by
  rw [advance, h]
  rfl

theorem processed_advance (c : Cursor) (page : List Item) :
    (c.advance page).processed = c.processed + UInt64.ofNat page.length := by
  rw [advance]
  cases hlast : page.getLast? with
  | none =>
    rw [List.getLast?_eq_none_iff.1 hlast]
    exact (UInt64.add_zero _).symm
  | some last => rfl

/-- A cursor that was moved to the end of a page stands before what comes after the last item. -/
theorem precedes_advance_iff {page : List Item} {last : Item} (h : page.getLast? = some last)
    (c : Cursor) (item : Item) :
    (c.advance page).precedes item = true ↔ last.position < item.position :=
  precedes_iff (position_advance h c) item

/-- Of ascending items those after a cursor that was moved over the first of them are the rest. -/
theorem filter_precedes_advance {items : List Item} (hitems : Ascending items)
    {c : Cursor} {n : Nat} {last : Item}
    (hlast : ((items.filter c.precedes).take n).getLast? = some last) :
    items.filter (c.advance ((items.filter c.precedes).take n)).precedes
      = (items.filter c.precedes).drop n := by
  have hafter := precedes_advance_iff hlast c
  generalize c.advance ((items.filter c.precedes).take n) = moved at hafter ⊢
  have hnarrow : items.filter moved.precedes = (items.filter c.precedes).filter moved.precedes := by
    rw [List.filter_filter]
    refine List.filter_congr ?_
    intro item _
    -- the last item of the page comes after the cursor, and so does what comes after that item
    have hcursor : c.precedes last = true :=
      (List.mem_filter.1 (List.mem_of_mem_take (List.mem_of_getLast? hlast))).2
    rw [Bool.eq_iff_iff, Bool.and_eq_true]
    constructor
    · intro h
      exact ⟨h, precedes_of_lt hcursor ((hafter item).1 h)⟩
    · exact fun h => h.1
  have hascending : Ascending (items.filter c.precedes) := hitems.filter _
  rw [hnarrow]
  generalize items.filter c.precedes = after at hlast hascending
  rw [← List.take_append_drop n after] at hascending
  have hsplit := (List.pairwise_append.1 hascending)
  conv => lhs; rw [← List.take_append_drop n after]
  rw [List.filter_append, List.filter_eq_nil_iff.2, List.filter_eq_self.2, List.nil_append]
  · -- what is dropped comes after the last item that was taken
    intro item hitem
    exact (hafter item).2 (hsplit.2.2 last (List.mem_of_getLast? hlast) item hitem)
  · intro item hitem h
    exact not_lt_last hsplit.1 hlast hitem ((hafter item).1 h)

end Cursor

/-! ## The source in memory -/

namespace Source

theorem insertItem_perm (item : Item) (items : List Item) :
    (insertItem item items).Perm (item :: items) := by
  induction items with
  | nil => exact List.Perm.refl _
  | cons other rest ih =>
    rw [insertItem]
    split
    · exact (ih.cons other).trans (List.Perm.swap item other rest)
    · exact List.Perm.refl _

theorem ascending_insertItem {item : Item} {items : List Item} (hitems : Ascending items)
    (hnew : ∀ other ∈ items, other.position ≠ item.position) :
    Ascending (insertItem item items) := by
  induction items with
  | nil => exact List.pairwise_singleton _ _
  | cons other rest ih =>
    obtain ⟨hother, hrest⟩ := List.pairwise_cons.1 hitems
    rw [insertItem]
    split
    · rename_i hlt
      refine List.pairwise_cons.2 ⟨?_, ih hrest fun o ho => hnew o (List.mem_cons_of_mem _ ho)⟩
      intro x hx
      -- what follows is the new item or one of the old ones
      rcases List.mem_cons.1 ((insertItem_perm item rest).mem_iff.1 hx) with rfl | hx
      · exact hlt
      · exact hother x hx
    · rename_i hnot
      -- the item stands before the first of the others, since it is not at its place
      have hlt : item.position < other.position := by
        rcases Position.lt_trichotomy item.position other.position with h | h | h
        · exact h
        · exact absurd h.symm (hnew other List.mem_cons_self)
        · exact absurd h hnot
      refine List.pairwise_cons.2 ⟨?_, hitems⟩
      rw [List.forall_mem_cons]
      exact ⟨hlt, fun x hx => Position.lt_trans hlt (hother x hx)⟩

/-- With the items that are still to come, the source holds the same items before and after. -/
theorem insert_append_perm (s : Source) (item : Item) (rest : List Item) :
    ((s.insert item).items ++ rest).Perm (s.items ++ item :: rest) :=
  ((insertItem_perm item s.items).append_right rest).trans List.perm_middle.symm

/-- Inserting keeps positions distinct, wherever the items that are still to come stand. -/
theorem nodup_insert {s : Source} {item : Item} {rest : List Item}
    (h : ((s.items ++ item :: rest).map (·.position)).Nodup) :
    (∀ other ∈ s.items, other.position ≠ item.position) ∧
      (((s.insert item).items ++ rest).map (·.position)).Nodup := by
  refine ⟨?_, ((insert_append_perm s item rest).map (·.position)).nodup_iff.2 h⟩
  intro other hother
  rw [List.map_append, List.nodup_append] at h
  exact h.2.2 other.position (List.mem_map_of_mem hother) item.position
    (List.mem_map_of_mem List.mem_cons_self)

/-- The items of a source stand in the order of their positions, however they were put in. -/
theorem ofList_spec {items : List Item} (hpositions : (items.map (·.position)).Nodup) :
    Ascending (ofList items).items ∧ (ofList items).items.Perm items := by
  have hfold : ∀ (items : List Item) (s : Source), Ascending s.items →
      ((s.items ++ items).map (·.position)).Nodup →
      Ascending (items.foldl insert s).items ∧
        (items.foldl insert s).items.Perm (s.items ++ items) := by
    intro items
    induction items with
    | nil =>
      intro s hs _
      rw [List.append_nil]
      exact ⟨hs, List.Perm.refl _⟩
    | cons item rest ih =>
      intro s hs hpositions
      obtain ⟨hnew, hrest⟩ := nodup_insert hpositions
      have h := ih (s.insert item) (ascending_insertItem hs hnew) hrest
      exact ⟨h.1, h.2.trans (insert_append_perm s item rest)⟩
  exact hfold items ⟨[]⟩ List.Pairwise.nil hpositions

/-- Items of distinct ids have distinct positions. -/
theorem nodup_positions {items : List Item} (hids : (items.map (·.id)).Nodup) :
    (items.map (·.position)).Nodup :=
  List.pairwise_map.2 ((List.pairwise_map.1 hids).imp fun hne h => hne (congrArg Position.id h))

theorem ascending_ofList {items : List Item} (hids : (items.map (·.id)).Nodup) :
    Ascending (ofList items).items := (ofList_spec (nodup_positions hids)).1

theorem ofList_perm {items : List Item} (hids : (items.map (·.id)).Nodup) :
    (ofList items).items.Perm items := (ofList_spec (nodup_positions hids)).2

end Source

end Precis
