import Mathlib.Data.List.Forall2
import Precis.Plan.CommandLine
import Precis.Proofs.Json.Indented
import Precis.Proofs.Json.Restored
import Precis.Proofs.Packing.Segments
import Precis.Proofs.Plan.Lines

/-!
# What a printed plan covers

A run that plans a file prints a plan of all its items, or no plan at all and the number of the
first line that is neither blank nor an item, or it stops since the items cannot be packed
(`plan_covers`). What is printed reads back as a document, and this document `Shows` the file: it
counts all items, no id is lost or moved, its batches count up from zero, and they are those that
packing gives.
-/

namespace Precis

open Json (int? int64? list?)
open Document (uint64? bool?)

/-- The member of this name. -/
def Json.member? (doc : Json) (name : String) : Option Json := doc.entries?.bind (·.lookup name)

@[simp] theorem Json.member?_record (members : List (String × Json)) (name : String) :
    (Json.record members).member? name = members.lookup name := by
  rw [member?, record, entries?, namedMembers_escaped, Option.bind_some]

theorem Json.int?_ofNat (n : Nat) : int? (ofNat n) = some (n : Int) := by
  rw [ofNat_eq_ofInt, int?_ofInt]

namespace Plan

/-! ## The printed document -/

/-- The ids in a row of the document. -/
def idsOf (row : Json) : Option (List Int64) := (row.member? "item_ids").bind (list? int64?)

/-- A row of the document says this of a batch. -/
structure RowOf (b : Batch) (index : Nat) (row : Json) : Prop where
  index : (row.member? "index").bind int? = some (index : Int)
  ids : idsOf row = some b.ids
  tokens : (row.member? "estimated_tokens").bind uint64? = some b.estimatedTokens
  truncated : (row.member? "truncated").bind bool? = some b.truncated

/-- What a document says of a file with these filled lines and the items on them. -/
structure Shows (limits : Limits) (filled : List (List Char)) (items : List Item) (doc : Json) :
    Prop where
  total : (doc.member? "total_items").bind int? = some (filled.length : Int)
  maxTokens : (doc.member? "max_tokens_per_request").bind uint64? = some limits.maxTokens
  maxItems : (doc.member? "max_batch_size").bind uint64? = some limits.maxItems
  /-- The rows are those of the batches, numbered from zero. -/
  rows : ∃ batches rows, (Packer.ofLimits limits).pack items = some batches ∧
    doc.member? "batches" = some (.array rows) ∧
    List.Forall₂ (fun b row => RowOf b.1 b.2 row) batches.zipIdx rows
  /-- The rows together hold the ids of the items in their order. -/
  ids : ∃ rows, doc.member? "batches" = some (.array rows) ∧
    rows.flatMap (fun row => (idsOf row).getD []) = items.map (·.id)

theorem rowOf_batchJson (b : Batch) (index : Nat) :
    RowOf b index (batchJson (planned b index)) where
  index := by
    rw [batchJson, Json.member?_record]
    exact Json.int?_ofNat index
  ids := by
    rw [idsOf, batchJson, Json.member?_record]
    exact Json.restores_int64.list.read_write b.ids
  tokens := by
    rw [batchJson, Json.member?_record]
    exact Json.uint64?_ofUInt64 b.estimatedTokens
  truncated := by
    rw [batchJson, Json.member?_record]
    rfl

theorem rowsOf_batches (batches : List Batch) (k : Nat) :
    List.Forall₂ (fun b row => RowOf b.1 b.2 row) (batches.zipIdx k)
      (((batches.zipIdx k).map fun b => planned b.1 b.2).map batchJson) := by
  rw [List.map_map, List.forall₂_map_right_iff, List.forall₂_same]
  exact fun b _ => rowOf_batchJson b.1 b.2

/-- The ids in the rows are those in the batches. -/
theorem ids_of_rows {batches : List (Batch × Nat)} {rows : List Json}
    (h : List.Forall₂ (fun b row => RowOf b.1 b.2 row) batches rows) :
    rows.flatMap (fun row => (idsOf row).getD []) = batches.flatMap (·.1.ids) := by
  induction h with
  | nil => rfl
  | cons hrow _ ih =>
    rw [List.flatMap_cons, List.flatMap_cons, ih, hrow.ids]
    rfl

theorem ids_zipIdx (batches : List Batch) (k : Nat) :
    (batches.zipIdx k).flatMap (·.1.ids) = (batches.flatMap (·.items)).map (·.id) := by
  induction batches generalizing k with
  | nil => rfl
  | cons b rest ih =>
    rw [List.zipIdx_cons, List.flatMap_cons, List.flatMap_cons, List.map_append, ih]
    rfl

/-- The document of a plan of the items shows the file. -/
theorem shows_ofItems {limits : Limits} {filled : List (List Char)} {items : List Item} {p : Plan}
    (hread : filled.map itemOf? = items.map some) (h : ofItems limits items = some p) :
    Shows limits filled items p.toJson := by
  obtain ⟨batches, hpack, rfl⟩ := Option.map_eq_some_iff.1 h
  have hrows := rowsOf_batches batches 0
  have hlength := congrArg List.length hread
  rw [List.length_map, List.length_map] at hlength
  constructor
  case total =>
    rw [toJson, Json.member?_record, hlength]
    exact Json.int?_ofNat items.length
  case maxTokens =>
    rw [toJson, Json.member?_record]
    exact Json.uint64?_ofUInt64 limits.maxTokens
  case maxItems =>
    rw [toJson, Json.member?_record]
    exact Json.uint64?_ofUInt64 limits.maxItems
  case rows =>
    refine ⟨batches, _, hpack, ?_, hrows⟩
    rw [toJson, Json.member?_record]
    rfl
  case ids =>
    refine ⟨((batches.zipIdx.map fun b => planned b.1 b.2).map batchJson), ?_, ?_⟩
    · rw [toJson, Json.member?_record]
      rfl
    · rw [ids_of_rows hrows, ids_zipIdx, Packer.ids_pack hpack]

/-! ## The printed text -/

theorem plain_batchJson (b : PlannedBatch) : Json.Plain (batchJson b) := by
  apply Json.plain_record
  simp only [List.forall_mem_cons]
  exact ⟨Json.plain_ofNat _, Json.restores_int64.list.plain b.ids, Json.restores_uint64.plain _,
    Json.restores_bool.plain _, by simp⟩

theorem plain_toJson (p : Plan) : Json.Plain p.toJson := by
  apply Json.plain_record
  simp only [List.forall_mem_cons]
  refine ⟨Json.plain_ofNat _, Json.restores_uint64.plain _, Json.restores_uint64.plain _, ?_,
    by simp⟩
  apply Json.Plain.array
  rw [List.forall_mem_map]
  intro b _
  exact plain_batchJson b

/-- What is printed of a plan reads back as its record. -/
theorem parse_printed (p : Plan) : Json.parse (p.toText ++ "\n") = some p.toJson := by
  have htext : (p.toText ++ "\n").toList = p.toJson.indentedAt 0 ++ ['\n'] := by
    rw [String.toList_append, toText, Json.renderIndented, String.toList_ofList]
    rfl
  rw [Json.parse, htext]
  exact Json.document_indentedAt p.plain_toJson (by simp [Json.Blanks, Json.isSpace])

end Plan

namespace CommandLine

open Plan (isFilled itemOf?)

/-- A run that failed over this line of a file, since the reader objects to it. -/
def badItemAt (path : String) (number : Nat) (objection : String) : Output :=
  { err := ["Error: " ++ (path ++ ":" ++ Text.numeral number ++ ": invalid item"), "", "Caused by:",
      "    " ++ objection]
    code := 1 }

variable {around : Surroundings} {args : List String} {path text : String} {settings : Settings}

/-- With settings that load, what is printed depends on the items of the file alone. -/
theorem run_plan (hpath : itemsPath args = some path) (htext : around.file path = some text)
    (hsettings : loadSettings around (settingsPath args) = .ok settings) :
    (Command.ofArgs ("plan" :: args)).run around =
      match Plan.readItems text with
      | .ok items =>
        match Plan.ofItems settings.batch items with
        | none => .error .sum
        | some p => .ok { out := p.toText ++ "\n" }
      | .error (number, line) => .ok (badItemAt path number (around.objection line)) := by
  have heffective : effectiveSettings around (settingsPath args) = .ok settings := by
    rw [effectiveSettings, hsettings]
  have hfile : planFile around (itemsPath args) (settingsPath args) =
      match Plan.readItems text with
      | .ok items => .ok (Plan.ofItems settings.batch items)
      | .error (number, line) => .error (.badItem path number (around.objection line)) := by
    unfold planFile
    rw [hpath]
    simp only [heffective, itemsOfFile, htext]
    -- an item that cannot be read ends it before anything is packed
    rcases Plan.readItems text with ⟨number, line⟩ | items
    · rfl
    · rfl
  show (Command.plan (itemsPath args) (settingsPath args)).run around = _
  rw [Command.run, hfile]
  rcases Plan.readItems text with ⟨number, line⟩ | items
  · rfl
  · dsimp only
    cases Plan.ofItems settings.batch items with
    | none => rfl
    | some p => rfl

/-- Whatever the settings that load and the text of the file, a run that plans it either names the
first of its lines that is neither blank nor an item, and prints nothing else; or each of its lines
is one or the other. Then what it prints is a document that shows them, unless the items cannot be
packed, when it stops. The lines of the text are those that it breaks into at its line feeds, with
or without returns before them. -/
theorem plan_covers (hpath : itemsPath args = some path) (htext : around.file path = some text)
    (hsettings : loadSettings around (settingsPath args) = .ok settings) :
    let run := (Command.ofArgs ("plan" :: args)).run around
    let lines := Plan.lines text
    let filled := lines.filter isFilled
    let packed := (Packer.ofLimits settings.batch).pack
    (∀ found, Plan.BreaksInto text.toList found ↔ found = lines) ∧
      ((∃ number line, Plan.FirstUnreadable lines number line ∧
          run = .ok (badItemAt path number (around.objection line))) ∨
        ∃ items, filled.map itemOf? = items.map some ∧
          ((packed items = none ∧ run = .error .sum) ∨
            ∃ out doc, run = .ok { out } ∧ Json.parse out = some doc ∧
              Plan.Shows settings.batch filled items doc)) ∧
      ((∃ out, run = .ok { out }) ↔
        ∃ items, filled.map itemOf? = items.map some ∧ (packed items).isSome = true) := by
  intro run lines filled packed
  have hrun : run = _ := run_plan hpath htext hsettings
  refine ⟨Plan.breaksInto_iff text, ?_⟩
  rcases Plan.readItems_cases text with ⟨items, hread, hitems⟩ | ⟨number, line, hread, hfirst⟩
  · -- every filled line holds an item
    rw [hread] at hrun
    dsimp only at hrun
    cases hplan : Plan.ofItems settings.batch items with
    | none =>
      have hnone : packed items = none := Option.map_eq_none_iff.1 hplan
      rw [hplan] at hrun
      refine ⟨Or.inr ⟨items, hitems, Or.inl ⟨hnone, hrun⟩⟩, ?_⟩
      rw [hrun]
      constructor
      · -- a file is read as one list of items only, and this one cannot be packed
        rintro ⟨out, hout⟩
        cases hout
      · rintro ⟨others, hothers, hsome⟩
        have hsame := Plan.items_unique hitems hothers
        rw [← hsame, hnone] at hsome
        cases hsome
    | some p =>
      rw [hplan] at hrun
      have hsome : (packed items).isSome = true := by
        obtain ⟨batches, hpack, -⟩ := Option.map_eq_some_iff.1 hplan
        exact Option.isSome_iff_exists.2 ⟨batches, hpack⟩
      refine ⟨Or.inr ⟨items, hitems, Or.inr ⟨_, _, hrun, Plan.parse_printed p,
        Plan.shows_ofItems hitems hplan⟩⟩, ?_⟩
      exact ⟨fun _ => ⟨items, hitems, hsome⟩, fun _ => ⟨_, hrun⟩⟩
  · -- a filled line holds none
    rw [hread] at hrun
    refine ⟨Or.inl ⟨number, line, hfirst, hrun⟩, ?_⟩
    rw [hrun]
    constructor
    · rintro ⟨out, hout⟩
      cases hout
    · -- the unreadable line is among the filled ones, which would all hold items
      rintro ⟨items, hitems, -⟩
      obtain ⟨hline, hnone⟩ := hfirst.mem
      have hsome := Plan.isSome_of_read hitems line hline
      rw [hnone] at hsome
      cases hsome

/-- Two posts with a blank line between them: the first line ends with a return and a line feed, the
last one just stops. -/
def posts : String :=
  "\x7b\"id\":7,\"title\":\"a\",\"content\":\"b\","
    ++ "\"timestamp\":\"2024-03-01T08:01:00Z\"\x7d\r\n \t\n"
    ++ "[-3,\"c\",null,\"d\",\"2024-03-01T08:02:00Z\"]"

/-- Limits that are accepted, but for instructions that leave no room for any sum. -/
def endless : String :=
  "batch:\n  max_tokens_per_request: 100\n  base_prompt_tokens: 18446744073709551615\n"
    ++ "  truncation_buffer_tokens: 10\n"

/-- The posts in a file, the limits in another, and no overrides. -/
def desk : Surroundings where
  file path :=
    if path = "posts.jsonl" then some posts
    else if path = "endless.yaml" then some endless
    else none
  value _ := none
  objection _ := "expected an item"

theorem plan_covers_posts :
    itemsPath ["posts.jsonl"] = some "posts.jsonl" ∧ desk.file "posts.jsonl" = some posts ∧
      loadSettings desk (settingsPath ["posts.jsonl"]) = .ok {} ∧
      ∃ out doc, (Command.ofArgs ["plan", "posts.jsonl"]).run desk = .ok { out } ∧
        Json.parse out = some doc ∧
        (doc.member? "total_items").bind int? = some 2 ∧
        ∃ rows, doc.member? "batches" = some (.array rows) ∧
          rows.flatMap (fun row => (Plan.idsOf row).getD []) = [7, -3] := by
  have hpath : itemsPath ["posts.jsonl"] = some "posts.jsonl" := by decide +kernel
  have htext : desk.file "posts.jsonl" = some posts := by decide +kernel
  have hsettings : loadSettings desk (settingsPath ["posts.jsonl"]) = .ok {} := rfl
  refine ⟨hpath, htext, hsettings, ?_⟩
  obtain ⟨items, hitems, hids, hpacked⟩ : ∃ items,
      ((Plan.lines posts).filter isFilled).map itemOf? = items.map some ∧
        items.map (·.id) = [7, -3] ∧ ((Packer.ofLimits {}).pack items).isSome = true :=
    ⟨(((Plan.lines posts).filter isFilled).map itemOf?).filterMap id, by decide +kernel,
      by decide +kernel, by decide +kernel⟩
  obtain ⟨-, hcases, hprints⟩ := plan_covers hpath htext hsettings
  obtain ⟨out, hout⟩ := hprints.2 ⟨items, hitems, hpacked⟩
  rcases hcases with ⟨_, _, _, hrun⟩ | ⟨found, hfound, ⟨_, hrun⟩ | ⟨_, doc, hrun, hparse, hshows⟩⟩
  · rw [hout] at hrun
    cases hrun
  · rw [hout] at hrun
    cases hrun
  · have hsame := Plan.items_unique hfound hitems
    obtain ⟨rows, hrows, hrowIds⟩ := hshows.ids
    refine ⟨_, doc, hrun, hparse, ?_, rows, hrows, ?_⟩
    · rw [hshows.total]
      decide +kernel
    · rw [hrowIds, hsame, hids]

/-- The settings load and every line holds an item, and still the run stops without a plan. -/
theorem plan_endless :
    (loadSettings desk (some "endless.yaml")).toOption.map
        (fun s => (s.batch.maxTokens, s.batch.baseTokens)) = some (100, 18446744073709551615) ∧
      (Plan.readItems posts).toOption.map (·.map (·.id)) = some [7, -3] ∧
      (Command.ofArgs ["plan", "posts.jsonl", "--config", "endless.yaml"]).run desk
        = .error .sum := by
  decide +kernel

end CommandLine

end Precis
