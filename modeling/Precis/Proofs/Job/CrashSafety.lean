import Precis.Proofs.Job.Parts
import Precis.Proofs.Job.Settlement
import Precis.Proofs.Source.Checkpoint
import Precis.Proofs.Source.Order

/-!
# Crash safety

Runs follow one another over the same stores, and each may end at any call. `Runs.crashSafe`: at
every moment all items of the source up to the stored position were handed to the writer, and the
stored position never goes back.

The invariant of a run is `Passed`: the items that the cursor has passed were handed over, but for
those of the page in work. Reading a page puts its items among them, settling it takes them out, and
only then the cursor is stored. Wherever the run ends, `Sound` still holds of what is stored.
-/

namespace Precis

open Job

/-- The source answers with its first items after the cursor, in their order. -/
def Feed.Follows (feed : Feed) (items : List Item) : Prop :=
  ∀ history after limit,
    feed history after limit <+: (Source.ofList items).items.filter after.precedes

/-- The source in memory answers with its first items after the cursor. -/
theorem Source.feed_follows (items : List Item) : (Source.ofList items).feed.Follows items :=
  fun _ _ _ => List.take_prefix _ _

/-- At no moment of the journal, begun with empty stores, an item up to the stored position was not
handed to the writer, and the stored position never goes back. -/
structure CrashSafe (key : String) (items : List Item) (journal : List Effect) : Prop where
  covered : ∀ past, past <+: journal → ∀ text,
    (Stores.replay key {} past).checkpoint key = some text →
    ∃ p, (Stores.replay key {} past).position key = some p ∧
      ∀ item ∈ items, ¬ p < item.position → Handed past item
  forward : ∀ past later, past <+: later → later <+: journal → ∀ p,
    (Stores.replay key {} past).position key = some p →
    ∃ q, (Stores.replay key {} later).position key = some q ∧ ¬ q < p

namespace CrashSafe

variable {key : String} {items : List Item} {journal : List Effect}

theorem nil (key : String) (items : List Item) : CrashSafe key items [] := by
  refine ⟨?_, ?_⟩
  · intro past hpast text htext
    -- before any call nothing is stored
    rw [List.prefix_nil.1 hpast] at htext
    cases htext
  · intro past later hpast hlater p hp
    rw [List.prefix_nil.1 hlater, List.prefix_nil] at hpast
    rw [hpast] at hp
    cases hp

/-- A journal is safe with one more call if what is stored after the call is covered and not behind
what was stored before. -/
theorem concat {e : Effect} (h : CrashSafe key items journal)
    (hcovered : ∀ text, (Stores.replay key {} (journal ++ [e])).checkpoint key = some text →
      ∃ p, (Stores.replay key {} (journal ++ [e])).position key = some p ∧
        ∀ item ∈ items, ¬ p < item.position → Handed (journal ++ [e]) item)
    (hforward : ∀ p, (Stores.replay key {} journal).position key = some p →
      ∃ q, (Stores.replay key {} (journal ++ [e])).position key = some q ∧ ¬ q < p) :
    CrashSafe key items (journal ++ [e]) := by
  refine ⟨?_, ?_⟩
  · intro past hpast
    -- a past moment is the present one or one before the new call
    rcases List.prefix_concat_iff.1 hpast with rfl | hpast
    · exact hcovered
    · exact h.covered past hpast
  · intro past later hpast hlater p hp
    rcases List.prefix_concat_iff.1 hlater with rfl | hlater
    · rcases List.prefix_concat_iff.1 hpast with rfl | hpast
      · exact ⟨p, hp, Position.lt_irrefl p⟩
      · -- from the past to the last moment but one, and from there one call on
        obtain ⟨q, hq, hback⟩ := h.forward past journal hpast List.prefix_rfl p hp
        obtain ⟨r, hr, hback'⟩ := hforward q hq
        exact ⟨r, hr, Position.not_lt_trans hback hback'⟩
    · -- both moments lie before the new call
      exact h.forward past later hpast hlater p hp

/-- A call that does not store the cursor keeps a journal safe. -/
theorem concat_quiet {e : Effect} (h : CrashSafe key items journal)
    (he : ∀ text, e ≠ .cursorStored text) : CrashSafe key items (journal ++ [e]) := by
  apply h.concat
  · intro text htext
    rw [Stores.replay_concat, Stores.checkpoint_after he] at htext
    obtain ⟨p, hp, hhanded⟩ := h.covered journal List.prefix_rfl text htext
    refine ⟨p, ?_, fun item hitem hnot => (hhanded item hitem hnot).append [e]⟩
    rw [Stores.replay_concat, Stores.position_after he, hp]
  · intro p hp
    refine ⟨p, ?_, Position.lt_irrefl p⟩
    rw [Stores.replay_concat, Stores.position_after he, hp]

end CrashSafe

/-! ## The invariant of a run -/

section Run

variable {σ : Type} {key : String} {items : List Item} {earlier : List Effect} {pager : Pager}
  {page : List Item} {desk : Desk σ}

/-- The desk has the stores of its journal, which goes on from the calls of earlier runs, and the
journal is safe. -/
structure Sound (key : String) (items : List Item) (earlier : List Effect) (desk : Desk σ) :
    Prop where
  key_eq : desk.paging.pager.key = key
  stores_eq : desk.stores = Stores.replay key {} (earlier ++ desk.done)
  safe : CrashSafe key items (earlier ++ desk.done)

/-- All items that the cursor has passed were handed to the writer, but for those of `page`, and the
cursor is not behind the stored one. -/
structure Passed (key : String) (items : List Item) (earlier : List Effect) (pager : Pager)
    (page : List Item) (desk : Desk σ) : Prop extends Sound key items earlier desk where
  pager_eq : desk.paging.pager = pager
  handed : ∀ item ∈ items, pager.cursor.precedes item = false →
    Handed (earlier ++ desk.done) item ∨ item ∈ page
  ahead : ∀ p, desk.stores.position key = some p →
    ∃ q, pager.cursor.position = some q ∧ ¬ q < p

/-- A call other than storing the cursor, when its effect is on the stores and in the journal. -/
theorem Sound.after_call {desk' : Desk σ} {e : Effect} (h : Sound key items earlier desk)
    (he : ∀ text, e ≠ .cursorStored text) (hdone : desk'.done = desk.done ++ [e])
    (hstores : desk'.stores = desk.stores.after key e)
    (hpager : desk'.paging.pager = desk.paging.pager) : Sound key items earlier desk' := by
  refine ⟨?_, ?_, ?_⟩
  · rw [hpager, h.key_eq]
  · rw [hstores, hdone, ← List.append_assoc, Stores.replay_concat, h.stores_eq]
  · rw [hdone, ← List.append_assoc]
    exact h.safe.concat_quiet he

/-- What such a call hands over is no longer open. -/
theorem Passed.after_call {desk' : Desk σ} {e : Effect} {page' : List Item}
    (h : Passed key items earlier pager page desk) (he : ∀ text, e ≠ .cursorStored text)
    (hdone : desk'.done = desk.done ++ [e]) (hstores : desk'.stores = desk.stores.after key e)
    (hpager : desk'.paging.pager = desk.paging.pager)
    (hpage : ∀ item ∈ page, e.Hands item ∨ item ∈ page') :
    Passed key items earlier pager page' desk' := by
  refine ⟨h.toSound.after_call he hdone hstores hpager, hpager.trans h.pager_eq, ?_, ?_⟩
  · intro item hitem hpassed
    rw [hdone, ← List.append_assoc]
    rcases h.handed item hitem hpassed with hhanded | hopen
    · -- it was handed over before, or was open and is now handed over or still open
      exact Or.inl (hhanded.append [e])
    · rcases hpage item hopen with hhands | hopen
      · exact Or.inl (handed_concat hhands _)
      · exact Or.inr hopen
  · -- the stored cursor is the same before and after
    rw [hstores, Stores.position_after he]
    exact h.ahead

/-- Work on what is neither stored nor in the journal changes nothing. -/
theorem Passed.of_eq {desk' : Desk σ} (h : Passed key items earlier pager page desk)
    (hpaging : desk'.paging = desk.paging) (hstores : desk'.stores = desk.stores)
    (hdone : desk'.done = desk.done) : Passed key items earlier pager page desk' := by
  refine ⟨⟨?_, ?_, ?_⟩, ?_, ?_, ?_⟩
  · rw [hpaging, h.key_eq]
  · rw [hstores, hdone, h.stores_eq]
  · rw [hdone]
    exact h.safe
  · rw [hpaging, h.pager_eq]
  · rw [hdone]
    exact h.handed
  · rw [hstores]
    exact h.ahead

/-- A stored cursor has passed only what was handed over. -/
theorem Sound.stored (h : Sound key items earlier desk) {text : String} {cursor : Cursor}
    (htext : desk.stores.checkpoint key = some text)
    (hcursor : Cursor.ofCheckpoint? text = some cursor) :
    desk.stores.position key = cursor.position ∧ ∀ item ∈ items, cursor.precedes item = false →
      Handed (earlier ++ desk.done) item := by
  -- the text that is stored is that of this cursor
  have hposition : desk.stores.position key = cursor.position := by
    rw [Stores.position, htext, Option.bind_some, hcursor, Option.bind_some]
  refine ⟨hposition, ?_⟩
  intro item hitem hpassed
  rw [h.stores_eq] at htext hposition
  obtain ⟨p, hp, hhanded⟩ := h.safe.covered _ List.prefix_rfl text htext
  obtain ⟨q, hq, hnot⟩ := Cursor.precedes_eq_false_iff.1 hpassed
  rw [hp, hq] at hposition
  cases hposition
  exact hhanded item hitem hnot

namespace Passed

/-! ## Settling a page -/

/-- The items of the summaries are handed over. -/
theorem meets_keepSummaries (faults : Faults) (successes : List SummarizedItem)
    (hids : (page.map (·.id)).Nodup) :
    Meets (Passed key items earlier pager page)
      (keepSummaries faults (Settlement.summarizedItems page successes) : Work σ Unit)
      (fun _ => Passed key items earlier pager
        (Settlement.unsettled page (Settlement.summarizedItems page successes)))
      (Sound key items earlier) := by
  have hhands : ∀ item ∈ page,
      (Effect.summariesWritten (Settlement.summarizedItems page successes)).Hands item ∨
        item ∈ Settlement.unsettled page (Settlement.summarizedItems page successes) := by
    -- an item of the page has a summary of its id, or none
    intro item hopen
    cases hany : (Settlement.summarizedItems page successes).any (·.item.id == item.id) with
    | true => exact Or.inl (Settlement.exists_summary_of_any hids hopen hany)
    | false => exact Or.inr (Settlement.mem_unsettled.2 ⟨hopen, hany⟩)
  generalize Settlement.summarizedItems page successes = summaries at hhands ⊢
  refine Job.meets_keepSummaries
    (fun _ => Passed key items earlier pager (Settlement.unsettled page summaries)) ?_ ?_ ?_
    (fun _ h => h.toSound) (fun _ _ h => h.toSound)
  · intro desk h hnone
    rw [hnone, Settlement.unsettled_nil]
    exact h
  · intro desk h
    exact h.after_call (by simp) rfl rfl rfl hhands
  · intro s rest desk h
    exact h.after_call (by simp) rfl rfl rfl fun _ hopen => Or.inr hopen

/-- The items without summaries are handed over. -/
theorem meets_keepFailures (faults : Faults) (summaries : List SummarizedItem)
    (failures : List Failure) :
    Meets (Passed key items earlier pager (Settlement.unsettled page summaries))
      (keepFailures faults (Settlement.failedItems page summaries failures) : Work σ Unit)
      (fun _ => Passed key items earlier pager []) (Sound key items earlier) := by
  refine Job.meets_keepFailures ?_ ?_ fun _ h => h.toSound
  · intro desk h hempty
    have hnone : Settlement.unsettled page summaries = [] := List.map_eq_nil_iff.1 hempty
    rw [hnone] at h
    exact h
  · intro desk h
    refine h.after_call (by simp) rfl rfl rfl fun item hopen => Or.inl ?_
    exact Settlement.exists_note_of_mem_unsettled failures hopen

/-- The retry queue has no part in what is handed over. -/
theorem meets_recordFailures (job : Job σ) (faults : Faults) (failures : List Failure) :
    Meets (Passed key items earlier pager page)
      (failures.foldlM (job.recordFailure faults) ({} : RetryReport))
      (fun _ => Passed key items earlier pager page) (Sound key items earlier) := by
  refine Job.meets_recordFailures (fun _ => Passed key items earlier pager page) ?_ ?_
    fun _ _ h => h.toSound
  · intro f rest desk h
    exact h.after_call (by simp) rfl rfl rfl fun _ hopen => Or.inr hopen
  · intro f rest desk v h _
    refine h.after_call ?_ rfl ?_ rfl fun _ hopen => Or.inr hopen
    · intro text
      rw [verdictEffect]
      split <;> simp
    · rw [verdictEffect]
      cases hentry : v.entry? <;> simp [Desk.stores, Stores.after, Verdict.apply, hentry]

/-- A page that is settled is handed over. -/
theorem meets_settlePage (job : Job σ) (faults : Faults) (fuel : Nat)
    (hids : (page.map (·.id)).Nodup) :
    Meets (Passed key items earlier pager page) (job.settlePage faults fuel page)
      (fun _ => Passed key items earlier pager []) (Sound key items earlier) := by
  have hcount : ∀ page change, Meets (Passed key items earlier pager page)
      (count change : Work σ Unit) (fun _ => Passed key items earlier pager page)
      (Sound key items earlier) :=
    fun _ _ => meets_modify fun _ h => h.of_eq rfl rfl rfl
  rw [settlePage]
  refine meets_bind (m := fun _ => Passed key items earlier pager page) ?_ fun batches => ?_
  · exact meets_pack (fun _ h => h.toSound) fun _ _ h _ => h
  refine meets_bind (hcount page _) fun _ => ?_
  refine meets_bind (m := fun _ => Passed key items earlier pager page) ?_ fun results => ?_
  · exact meets_dispatch (fun _ h => h.toSound) fun _ h _ _ => h.of_eq rfl rfl rfl
  refine meets_bind (meets_keepSummaries faults _ hids) fun _ => ?_
  refine meets_bind (meets_keepFailures faults _ _) fun _ => ?_
  refine meets_bind (meets_recordFailures job faults _) fun _ => ?_
  exact hcount [] _

/-! ## Opening, reading and storing -/

/-- The cursor that is found again has passed only what was handed over. -/
theorem of_opened (h : Sound key items earlier desk) {cursor : Cursor}
    (hcursor : desk.paging.stored = none ∧ cursor = Cursor.start ∨
      ∃ text, desk.paging.stored = some text ∧ Cursor.ofCheckpoint? text = some cursor) :
    Passed key items earlier (desk.paging.openedAt cursor).pager []
      { desk with paging := desk.paging.openedAt cursor } := by
  have hstored : desk.paging.stored = desk.stores.checkpoint key := by
    rw [Paging.stored, h.key_eq]
    rfl
  rw [hstored] at hcursor
  have hsound : Sound key items earlier { desk with paging := desk.paging.openedAt cursor } :=
    ⟨h.key_eq, h.stores_eq, h.safe⟩
  rcases hcursor with ⟨hnone, rfl⟩ | ⟨text, htext, hcursor⟩
  · -- nothing is stored: the cursor has passed nothing
    refine ⟨hsound, rfl, ?_, ?_⟩
    · intro item _ hpassed
      cases hpassed
    · intro p hp
      have hempty : desk.stores.position key = none := by rw [Stores.position, hnone]; rfl
      cases hempty.symm.trans hp
  · obtain ⟨hposition, hhanded⟩ := h.stored htext hcursor
    refine ⟨hsound, rfl, ?_, ?_⟩
    · intro item hitem hpassed
      exact Or.inl (hhanded item hitem hpassed)
    · intro p hp
      exact ⟨p, hposition.symm.trans hp, Position.lt_irrefl p⟩

theorem meets_openSource (faults : Faults) :
    Meets (Sound key items earlier) (openSource faults : Work σ Unit)
      (fun _ desk => ∃ pager, Passed key items earlier pager [] desk)
      (Sound key items earlier) := by
  have hloaded : ∀ desk : Desk σ, Sound key items earlier desk →
      Sound key items earlier { desk with done := desk.done ++ [.cursorLoaded] } :=
    fun _ h => h.after_call (by simp) rfl rfl rfl
  refine Job.meets_openSource (fun _ h => h) hloaded ?_
  intro desk cursor h hcursor
  exact ⟨_, of_opened (hloaded desk h) hcursor⟩

/-- The page that was read holds what the cursor passes with it. -/
theorem advance {answer : List Item} {last : Item} {limit : Nat}
    (h : Passed key items earlier pager [] desk) (hids : (items.map (·.id)).Nodup)
    (hanswer : answer <+: (Source.ofList items).items.filter pager.cursor.precedes)
    (hlast : (answer.take limit).getLast? = some last) :
    Passed key items earlier (desk.paging.turned (answer.take limit)).pager (answer.take limit)
      { desk with paging := desk.paging.turned (answer.take limit) } := by
  have hpage := (List.take_prefix limit answer).trans hanswer
  have hposition := Cursor.position_advance hlast desk.paging.pager.cursor
  rw [← h.pager_eq] at hpage
  refine ⟨⟨h.key_eq, h.stores_eq, h.safe⟩, rfl, ?_, ?_⟩
  · intro item hitem hpassed
    by_cases hbefore : desk.paging.pager.cursor.precedes item = true
    · -- the cursor passed the item with this page
      right
      obtain ⟨p, hp, hnot⟩ := Cursor.precedes_eq_false_iff.1 hpassed
      cases hposition.symm.trans hp
      have hmem : item ∈ (Source.ofList items).items :=
        (Source.ofList_perm hids).mem_iff.2 hitem
      exact mem_of_not_lt_last ((Source.ascending_ofList hids).filter _) hpage hlast
        (List.mem_filter.2 ⟨hmem, hbefore⟩) hnot
    · -- the cursor had passed the item before, and no page was open
      rw [h.pager_eq] at hbefore
      rcases h.handed item hitem (Bool.eq_false_iff.2 hbefore) with hhanded | hopen
      · exact Or.inl hhanded
      · cases hopen
  · intro p hp
    obtain ⟨q, hq, hback⟩ := h.ahead p hp
    refine ⟨last.position, hposition, Position.not_lt_trans hback ?_⟩
    -- the last item of the page comes after the cursor
    have hlast' := (List.mem_filter.1 (hpage.subset (List.mem_of_getLast? hlast))).2
    rw [← h.pager_eq] at hq
    exact Position.lt_asymm ((Cursor.precedes_iff hq last).1 hlast')

/-- The items of a page that was read are open; the cursor stands after them. -/
theorem meets_readPage {feed : Feed} (faults : Faults) (hfeed : feed.Follows items)
    (hids : (items.map (·.id)).Nodup) :
    Meets (fun desk => ∃ pager, Passed key items earlier pager [] desk)
      (readPage feed faults : Work σ (Option (List Item)))
      (fun page? desk => match page? with
        | none => Sound key items earlier desk
        | some page => (page.map (·.id)).Nodup ∧ ∃ pager p, pager.cursor.position = some p ∧
            Passed key items earlier pager page desk)
      (Sound key items earlier) := by
  have hfetched : ∀ (desk : Desk σ) pager e, Passed key items earlier pager [] desk →
      e.access = .fetch →
      Passed key items earlier pager [] { desk with done := desk.done ++ [e] } := by
    intro desk pager e h he
    cases e with
    | fetched limit answer =>
      exact h.after_call (by simp) rfl rfl rfl fun _ hopen => Or.inr hopen
    | _ => cases he
  apply Job.meets_readPage
  · rintro desk ⟨pager, h⟩
    exact h.toSound
  · rintro desk e ⟨pager, h⟩ he
    exact (hfetched desk pager e h he).toSound
  · rintro desk ⟨pager, h⟩
    exact h.toSound
  · rintro desk e ⟨pager, h⟩ he _
    exact (hfetched desk pager e h he).toSound
  · rintro desk limit answer last ⟨pager, h⟩ rfl hlast _
    have hanswer := hfeed desk.done desk.paging.pager.cursor limit
    generalize feed desk.done desk.paging.pager.cursor limit = answer at hlast hanswer ⊢
    -- a page is part of the source, whose ids are distinct
    have hnodup : ((answer.take limit).map (·.id)).Nodup := by
      have hsource := ((Source.ofList_perm hids).map (·.id)).nodup_iff.2 hids
      refine hsource.sublist (List.Sublist.map _ ?_)
      exact ((List.take_prefix _ _).trans hanswer).sublist.trans List.filter_sublist
    rw [h.pager_eq] at hanswer
    refine ⟨hnodup, (desk.paging.turned (answer.take limit)).pager, last.position,
      Cursor.position_advance hlast _, ?_⟩
    exact (hfetched desk pager (.fetched limit answer) h rfl).advance hids hanswer hlast

/-- A cursor may be stored when all items that it has passed were handed over. -/
theorem store (h : Passed key items earlier pager [] desk) {p : Position}
    (hp : pager.cursor.position = some p) :
    CrashSafe key items (earlier ++ desk.done ++ [.cursorStored pager.cursor.checkpoint]) ∧
      (desk.stores.after key (.cursorStored pager.cursor.checkpoint)).position key = some p := by
  have hstored : ∀ stores : Stores,
      (stores.after key (.cursorStored pager.cursor.checkpoint)).position key = some p := by
    intro stores
    rw [Stores.position, Stores.checkpoint_after_cursorStored, Option.bind_some,
      Cursor.ofCheckpoint?_checkpoint, Option.bind_some, hp]
  refine ⟨h.safe.concat ?_ ?_, hstored _⟩
  · -- no page is in work, so all that the cursor has passed is handed over
    intro text _
    rw [Stores.replay_concat]
    refine ⟨p, hstored _, ?_⟩
    intro item hitem hnot
    rcases h.handed item hitem (Cursor.precedes_eq_false_iff.2 ⟨p, hp, hnot⟩) with hhanded | hopen
    · exact hhanded.append _
    · cases hopen
  · -- the cursor was not behind the stored one
    intro q hq
    rw [Stores.replay_concat]
    refine ⟨p, hstored _, ?_⟩
    rw [← h.stores_eq] at hq
    obtain ⟨r, hr, hback⟩ := h.ahead q hq
    cases hp.symm.trans hr
    exact hback

/-- The cursor is stored once the page is settled. -/
theorem meets_storeCursor (faults : Faults) :
    Meets (fun desk => ∃ pager p, pager.cursor.position = some p ∧
        Passed key items earlier pager [] desk)
      (storeCursor faults : Work σ Unit)
      (fun _ desk => ∃ pager, Passed key items earlier pager [] desk)
      (Sound key items earlier) := by
  apply Job.meets_storeCursor
  · rintro desk ⟨pager, p, _, h⟩
    exact h.toSound
  rintro desk ⟨pager, p, hp, h⟩
  obtain ⟨hsafe, hposition⟩ := h.store hp
  rw [List.append_assoc] at hsafe
  have hstores : Desk.stores { desk with
      done := desk.done ++ [.cursorStored desk.paging.pager.cursor.checkpoint]
      paging := desk.paging.saved }
        = desk.stores.after key (.cursorStored pager.cursor.checkpoint) := by
    rw [← h.pager_eq, ← h.key_eq]
    rfl
  have hpager := h.pager_eq
  refine ⟨pager, ⟨h.key_eq, ?_, ?_⟩, h.pager_eq, ?_, ?_⟩
  · rw [hstores, hpager, ← List.append_assoc, Stores.replay_concat, ← h.stores_eq]
  · rw [hpager]
    exact hsafe
  · intro item hitem hpassed
    rcases h.handed item hitem hpassed with hhanded | hopen
    · rw [← List.append_assoc]
      exact Or.inl (hhanded.append _)
    · cases hopen
  · intro q hq
    rw [hstores, hposition] at hq
    cases hq
    exact ⟨p, hp, Position.lt_irrefl p⟩

end Passed

/-! ## Runs -/

/-- Wherever a run ends, its desk has the stores of its journal, which is safe. -/
theorem sound_runOn (job : Job σ) (feed : Feed) (faults : Faults) (fuel : Nat) (desk : Desk σ)
    (hfeed : feed.Follows items) (hids : (items.map (·.id)).Nodup)
    (hkey : desk.paging.pager.key = key) (hstores : desk.stores = Stores.replay key {} earlier)
    (hsafe : CrashSafe key items earlier) :
    Sound key items earlier (job.runOn feed faults fuel desk).2 := by
  have hstart : Sound key items earlier desk.cleared := by
    refine ⟨hkey, ?_, ?_⟩
    · rw [← List.append_nil earlier] at hstores
      exact hstores
    · rw [← List.append_nil earlier] at hsafe
      exact hsafe
  have hpages : Meets (fun desk => ∃ pager, Passed key items earlier pager [] desk)
      (job.settlePages feed faults fuel fuel) (fun _ => Sound key items earlier)
      (Sound key items earlier) := by
    refine meets_settlePages (c := fun page desk => (page.map (·.id)).Nodup ∧ ∃ pager p,
        pager.cursor.position = some p ∧ Passed key items earlier pager page desk)
      (Passed.meets_readPage faults hfeed hids) ?_ (fun page => ?_)
      (fun _ => Passed.meets_storeCursor faults) ?_ fuel
    · rintro page desk ⟨hpage, pager, p, hp, h⟩
      exact ⟨hpage, pager, p, hp, h.of_eq rfl rfl rfl⟩
    · refine meets_intro fun desk ⟨hpage, pager, p, hp, h⟩ => ?_
      have hsettle : Meets (Passed key items earlier pager page) _ _ (Sound key items earlier) :=
        Passed.meets_settlePage job faults fuel hpage
      refine hsettle.weaken ?_ ?_
      · rintro _ rfl
        exact h
      · exact fun _ desk h => ⟨pager, p, hp, h⟩
    · rintro desk ⟨pager, h⟩
      exact h.toSound
  have hrun := meets_work (Passed.meets_openSource faults) hpages desk.cleared hstart
  rw [runOn]
  rcases hresult : (job.work feed faults fuel).run desk.cleared with ⟨_ | report, desk'⟩
  · rw [hresult] at hrun
    exact hrun
  · rw [hresult] at hrun
    exact hrun.1

end Run

/-- Runs over the same stores, which are empty at first: the calls that succeeded in them, and the
stores after them. Each run has a desk, a job and a provider of its own, may fail at any call, and
may end for lack of steps. All keep their cursor under `key` and read a source of these items. -/
inductive Runs (key : String) (items : List Item) : List Effect → Stores → Prop where
  | start : Runs key items [] {}
  | next {σ : Type} {journal : List Effect} {stores : Stores} (h : Runs key items journal stores)
      (job : Job σ) (feed : Feed) (faults : Faults) (fuel : Nat) (desk : Desk σ)
      (hfeed : feed.Follows items) (hkey : desk.paging.pager.key = key)
      (hstores : desk.stores = stores) :
      Runs key items (journal ++ (job.runOn feed faults fuel desk).2.done)
        (job.runOn feed faults fuel desk).2.stores

/-- At every moment of any number of runs, all items of the source that do not come after the stored
position were handed to the writer, and the stored position never goes back. -/
theorem Runs.crashSafe {key : String} {items : List Item} {journal : List Effect} {stores : Stores}
    (h : Runs key items journal stores) (hids : (items.map (·.id)).Nodup) :
    stores = Stores.replay key {} journal ∧ CrashSafe key items journal := by
  induction h with
  | start => exact ⟨rfl, CrashSafe.nil key items⟩
  | next _ job feed faults fuel desk hfeed hkey hstores ih =>
    have hsound := sound_runOn job feed faults fuel desk hfeed hids hkey (hstores.trans ih.1) ih.2
    exact ⟨hsound.stores_eq, hsound.safe⟩

/-! ## An interrupted job -/

namespace Interrupted

/-- Three posts. -/
def posts : List Item :=
  [1, 2, 3].map fun id => { id, title := "a post", content := "about it", timestamp := .epoch }

/-- Summarizes each post by its title. -/
def titles : Provider Unit := fun _ state items =>
  ({ millis := 0, result := .answered (items.map fun i => (i.id, .summary { text := i.title })) },
    state)

/-- Reads two posts at a time. -/
def daily : Job Unit :=
  { settings := {}, packer := .withCounter {} .characters, provider := titles, today := .epoch }

def desk : Desk Unit :=
  { source := .ofList posts
    paging := { pager := { name := "daily", settings := { pageSize := 2 } }, store := .empty }
    provider := () }

/-- The cursor is stored once and then no more. -/
def refusing : Faults := fun done access =>
  if access = .storeCursor ∧ .storeCursor ∈ done then some (.corruptCheckpoint {}) else none

/-- A run that fails when the second page is settled. -/
def first : Desk Unit := (daily.runOn desk.source.feed refusing 30 desk).2

/-- A run that goes on from there. -/
def second : Desk Unit := (daily.runOn desk.source.feed (fun _ _ => none) 30 first).2

end Interrupted

open Interrupted in
theorem Runs.crashSafe_interrupted :
    (posts.map (·.id)).Nodup ∧
      Runs "daily.cursor" posts (first.done ++ second.done) second.stores ∧
      second.stores = Stores.replay "daily.cursor" {} (first.done ++ second.done) ∧
      CrashSafe "daily.cursor" posts (first.done ++ second.done) := by
  have hids : (posts.map (·.id)).Nodup := by decide
  have hfeed := Source.feed_follows posts
  have hfirst : Runs "daily.cursor" posts ([] ++ first.done) first.stores :=
    Runs.start.next daily desk.source.feed refusing 30 desk hfeed (by decide) rfl
  rw [List.nil_append] at hfirst
  have hkey : first.paging.pager.key = "daily.cursor" := by decide +kernel
  have hsecond := hfirst.next daily desk.source.feed (fun _ _ => none) 30 first hfeed hkey rfl
  exact ⟨hids, hsecond, Runs.crashSafe hsecond hids⟩

open Interrupted in
example : first.done.length = 9 ∧ second.done.length = 6 := by decide +kernel

end Precis
