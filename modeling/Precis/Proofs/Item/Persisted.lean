import Precis.Proofs.Json.Restored
import Precis.Proofs.Source.Checkpoint

/-!
# Items that are read back

The records of notes, items, summaries and summarized items read back as what they were written for:
`FailureNote.restores`, `Item.restores`, `Summary.restores`, `SummarizedItem.restores`. A record of
an item leaves out the url, the estimate and the note that it does not have; its names are still
some of those of the fields, in order, so no field stands twice.
-/

namespace Precis

open Document
open Json (Plain Restores ofText field? record nullOr)

theorem Time.Timestamp.restores : Restores toJson ofJson? where
  plain := plain_toJson
  isNull _ := rfl
  read_write := ofJson?_toJson

theorem FailureKind.ofName?_name (kind : FailureKind) : ofName? kind.name = some kind := by
  cases kind <;> rfl

theorem FailureKind.restores : Restores toJson ofJson? where
  plain kind := Plain.text kind.name.toList
  isNull _ := rfl
  read_write kind := by
    show (text? (ofText kind.name)).bind ofName? = some kind
    rw [Json.restores_text.read_write, Option.bind_some, ofName?_name]

theorem FailureNote.restores : Restores toJson ofJson? := by
  refine Json.restores_record ?_ ?_ ?_
  · intro note
    simp
  · intro note
    simp only [List.forall_mem_cons]
    exact ⟨FailureKind.restores.plain _, Json.restores_text.plain _, Json.restores_uint64.plain _,
      Json.restores_bool.plain _, by simp⟩
  · intro note r hget
    simp only [List.forall_mem_cons] at hget
    obtain ⟨hkind, hmessage, hsize, hwhole, -⟩ := hget
    simp [Json.required_get hkind (by simp) (FailureKind.restores.read_write note.kind),
      Json.required_get hmessage (by simp [List.lookup_cons])
        (Json.restores_text.read_write note.message),
      Json.required_get hsize (by simp [List.lookup_cons])
        (Json.restores_uint64.read_write note.batchSize),
      Json.required_get hwhole (by simp [List.lookup_cons])
        (Json.restores_bool.read_write note.wholeBatch)]

/-! ## Items -/

namespace Item

/-- The members of the record of an item. -/
def members (item : Item) : List (String × Json) :=
  [("id", Json.ofInt64 item.id), ("title", ofText item.title)]
    ++ field? "url" (item.url.map ofText)
    ++ [("content", ofText item.content), ("timestamp", item.timestamp.toJson)]
    ++ field? "token_estimate" (item.tokenEstimate.map Json.ofUInt64)
    ++ [("truncated", Json.bool item.truncated)]
    ++ field? "failure" (item.failure.map FailureNote.toJson)

/-- Some fields may be left out, and those that are there stand in their order. -/
theorem names_members_sublist (item : Item) : (item.members.map (·.1)).Sublist fieldNames := by
  have hsame : ∀ names : List String, names.Sublist names := List.Sublist.refl
  have hfield := Json.names_field?_sublist
  simp only [members, List.map_append]
  exact (((((hsame _).append (hfield _ _)).append (hsame _)).append (hfield _ _)).append
    (hsame _)).append (hfield _ _)

theorem plain_of_mem_members (item : Item) : ∀ f ∈ item.members, Plain f.2 := by
  have hnil : ∀ f ∈ ([] : List (String × Json)), Plain f.2 := by simp
  simp only [members, List.forall_mem_append, List.forall_mem_cons]
  refine ⟨⟨⟨⟨⟨?_, Json.restores_text.plain_field? _ _⟩, ?_⟩,
    Json.restores_uint64.plain_field? _ _⟩, ?_⟩, FailureNote.restores.plain_field? _ _⟩
  · exact ⟨Json.restores_int64.plain _, Json.restores_text.plain _, hnil⟩
  · exact ⟨Json.restores_text.plain _, Time.Timestamp.restores.plain _, hnil⟩
  · exact ⟨Json.restores_bool.plain _, hnil⟩

theorem lookup_members (item : Item) :
    item.members.lookup "id" = some (Json.ofInt64 item.id) ∧
    item.members.lookup "title" = some (ofText item.title) ∧
    item.members.lookup "url" = item.url.map ofText ∧
    item.members.lookup "content" = some (ofText item.content) ∧
    item.members.lookup "timestamp" = some item.timestamp.toJson ∧
    item.members.lookup "token_estimate" = item.tokenEstimate.map Json.ofUInt64 ∧
    item.members.lookup "truncated" = some (Json.bool item.truncated) ∧
    item.members.lookup "failure" = item.failure.map FailureNote.toJson := by
  simp [members, List.lookup_append, List.lookup_cons, Json.lookup_field?]

theorem restores : Restores toJson ofJson? := by
  refine Json.restores_record ?_ plain_of_mem_members ?_
  · -- the names that stand in the record are some of the fields, each once
    intro item
    exact item.names_members_sublist.nodup (by simp [fieldNames])
  · intro item r hget
    -- what each reader finds, and what stands there
    simp only [fieldNames, List.forall_mem_cons] at hget
    obtain ⟨hid, htitle, hurl, hcontent, htimestamp, hestimate, htruncated, hfailure, -⟩ := hget
    obtain ⟨hid', htitle', hurl', hcontent', htimestamp', hestimate', htruncated', hfailure'⟩ :=
      item.lookup_members
    simp [Json.required_get hid hid' (Json.restores_int64.read_write _),
      Json.required_get htitle htitle' (Json.restores_text.read_write _),
      Json.restores_text.skippable_get hurl hurl',
      Json.required_get hcontent hcontent' (Json.restores_text.read_write _),
      Json.required_get htimestamp htimestamp' (Time.Timestamp.restores.read_write _),
      Json.restores_uint64.skippable_get hestimate hestimate',
      Json.withDefault_get false htruncated htruncated' (Json.restores_bool.read_write _),
      FailureNote.restores.skippable_get hfailure hfailure']

end Item

/-! ## Summaries -/

theorem Summary.restores : Restores toJson ofJson? := by
  refine Json.restores_record ?_ ?_ ?_
  · intro summary
    simp
  · intro summary
    simp only [List.forall_mem_cons]
    exact ⟨Json.restores_text.plain _, Json.restores_text.list.plain _,
      Json.plain_nullOr _ Json.restores_text.plain, by simp⟩
  · intro summary r hget
    simp only [List.forall_mem_cons] at hget
    obtain ⟨htext, hcategories, hpreview, -⟩ := hget
    simp [Json.required_get htext (by simp) (Json.restores_text.read_write summary.text),
      Json.withDefault_get [] hcategories (by simp [List.lookup_cons])
        (Json.restores_text.list.read_write summary.categories),
      Json.withDefault_get none hpreview (by simp [List.lookup_cons])
        (Json.restores_text.orNull_nullOr summary.preview)]

theorem SummarizedItem.restores : Restores toJson ofJson? := by
  refine Json.restores_record ?_ ?_ ?_
  · intro s
    simp
  · intro s
    simp only [List.forall_mem_cons]
    exact ⟨Item.restores.plain _, Summary.restores.plain _, by simp⟩
  · intro s r hget
    simp only [List.forall_mem_cons] at hget
    obtain ⟨hitem, hsummary, -⟩ := hget
    simp [Json.required_get hitem (by simp) (Item.restores.read_write s.item),
      Json.required_get hsummary (by simp [List.lookup_cons])
        (Summary.restores.read_write s.summary)]

end Precis
