/-!
# Tables

A table holds at most one value for each key and lists its entries by ascending key. `get?` is the
view: `get?_insert` and `get?_erase` say what the two changes do to it.
-/

namespace Precis

/-- Values by key. -/
structure Table (κ : Type) (α : Type) where
  entries : List (κ × α)
  deriving DecidableEq, Repr

namespace Table

variable {κ α : Type}

/-- The table without entries. -/
def empty : Table κ α := ⟨[]⟩

instance : Inhabited (Table κ α) := ⟨empty⟩

section

variable [DecidableEq κ]

/-- The value of a key. -/
def get? (t : Table κ α) (k : κ) : Option α := (t.entries.find? fun e => e.1 = k).map (·.2)

/-- Has a value for the key. -/
def contains (t : Table κ α) (k : κ) : Bool := (t.get? k).isSome

/-- The table without the key. -/
def erase (t : Table κ α) (k : κ) : Table κ α := ⟨t.entries.filter fun e => e.1 ≠ k⟩

variable [LT κ] [DecidableLT κ]

/-- Puts an entry into its place. -/
def insertEntry (k : κ) (v : α) : List (κ × α) → List (κ × α)
  | [] => [(k, v)]
  | e :: rest =>
    if e.1 = k then (k, v) :: rest
    else if k < e.1 then (k, v) :: e :: rest
    else e :: insertEntry k v rest

/-- The table with `v` for the key `k`. -/
def insert (t : Table κ α) (k : κ) (v : α) : Table κ α := ⟨insertEntry k v t.entries⟩

/-- The table of a list of entries; of entries with one key the last one counts. -/
def ofList (entries : List (κ × α)) : Table κ α :=
  entries.foldl (fun t e => t.insert e.1 e.2) empty

end

/-- The values by ascending key. -/
def values (t : Table κ α) : List α := t.entries.map (·.2)

/-- The number of keys. -/
def size (t : Table κ α) : Nat := t.entries.length

theorem find?_insertEntry [DecidableEq κ] [LT κ] [DecidableLT κ] (k k' : κ) (v : α)
    (es : List (κ × α)) :
    ((insertEntry k v es).find? fun e => e.1 = k').map (·.2)
      = if k = k' then some v else (es.find? fun e => e.1 = k').map (·.2) := by
  induction es with
  | nil => by_cases h : k = k' <;> simp [insertEntry, h]
  | cons e rest ih =>
    unfold insertEntry
    split
    · rename_i he
      by_cases h : k = k' <;> simp [h, he]
    · split
      · by_cases h : k = k' <;> simp [h]
      · rename_i he _
        by_cases h' : e.1 = k'
        · have hk : k ≠ k' := fun h => he (h'.trans h.symm)
          simp [h', hk]
        · simp only [List.find?_cons, h', decide_false, ih]

@[simp] theorem get?_insert [DecidableEq κ] [LT κ] [DecidableLT κ] (t : Table κ α) (k k' : κ)
    (v : α) : (t.insert k v).get? k' = if k = k' then some v else t.get? k' :=
  find?_insertEntry k k' v t.entries

@[simp] theorem get?_erase [DecidableEq κ] (t : Table κ α) (k k' : κ) :
    (t.erase k).get? k' = if k = k' then none else t.get? k' := by
  obtain ⟨es⟩ := t
  simp only [erase, get?]
  induction es with
  | nil => simp
  | cons e rest ih =>
    by_cases he : e.1 = k
    · subst he
      by_cases h' : e.1 = k'
      · simp [h'] at ih ⊢
      · simpa [List.find?_cons, h'] using ih
    · by_cases h' : e.1 = k'
      · have hk : k ≠ k' := fun h => he (h'.trans h.symm)
        simp [h', hk, hk.symm]
      · simpa [List.filter_cons, he, List.find?_cons, h'] using ih

end Table

end Precis
