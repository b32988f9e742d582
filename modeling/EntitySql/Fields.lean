/-! # Named fields

Objects keep their fields in the order of their names (by code point). `get?_insert` says what a
write does to every later read, `Sorted.insert` that it keeps the order. -/

namespace EntitySql

/-- Fields in rising order of their names, which are distinct. -/
abbrev Fields (α : Type) := List (String × α)

namespace Fields
variable {α β : Type}

def get? (name : String) : Fields α → Option α
  | [] => none
  | (key, value) :: rest => if key = name then some value else get? name rest

/-- Sets a field, replacing the value it had. -/
def insert (name : String) (value : α) : Fields α → Fields α
  | [] => [(name, value)]
  | (key, old) :: rest =>
    if key = name then (name, value) :: rest
    else if name < key then (name, value) :: (key, old) :: rest
    else (key, old) :: insert name value rest

/-- The fields given in any order; of two with one name the later counts. -/
def ofList (entries : List (String × α)) : Fields α :=
  entries.foldl (fun fields (name, value) => insert name value fields) []

/-- Names in strictly rising order. -/
def Sorted (fields : Fields α) : Prop := (fields.map Prod.fst).Pairwise (· < ·)

theorem get?_insert (name other : String) (value : α) (fields : Fields α) :
    get? other (insert name value fields) = if name = other then some value else get? other fields := by
  induction fields with
  | nil => simp [insert, get?]
  | cons field rest ih =>
    obtain ⟨key, old⟩ := field
    by_cases hk : key = name
    · subst hk
      by_cases h : key = other <;> simp [insert, get?, h]
    · by_cases hlt : name < key
      · simp [insert, hk, hlt, get?]
      · simp only [insert, hk, hlt, ↓reduceIte, get?, ih]
        by_cases h : key = other
        · subst h; simp [Ne.symm hk]
        · simp [h]

@[simp] theorem get?_insert_self (name : String) (value : α) (fields : Fields α) :
    get? name (insert name value fields) = some value := by
  simp [get?_insert]

theorem insert_insert_self (name : String) (value old : α) (fields : Fields α) :
    insert name value (insert name old fields) = insert name value fields := by
  induction fields with
  | nil => simp [insert]
  | cons field rest ih =>
    obtain ⟨key, kept⟩ := field
    by_cases hk : key = name
    · simp [insert, hk]
    · by_cases hlt : name < key
      · simp [insert, hk, hlt]
      · simp [insert, hk, hlt, ih]

/-- Fields of different names can be set in any order. -/
theorem insert_comm {name other : String} (h : name ≠ other) (value value' : α) (fields : Fields α) :
    insert name value (insert other value' fields) = insert other value' (insert name value fields) := by
  have hlt : name < other ∧ ¬ other < name ∨ other < name ∧ ¬ name < other := by
    by_cases hlt : name < other
    · exact .inl ⟨hlt, String.lt_asymm hlt⟩
    · exact .inr ⟨Std.lt_of_le_of_ne (String.not_lt.1 hlt) h.symm, hlt⟩
  induction fields with
  | nil => rcases hlt with hlt | hlt <;> simp [insert, h, h.symm, hlt]
  | cons field rest ih =>
    obtain ⟨key, kept⟩ := field
    grind [insert, String.lt_trans, String.lt_asymm]

theorem mem_names_insert {name other : String} {value : α} {fields : Fields α} :
    other ∈ (insert name value fields).map Prod.fst ↔ other = name ∨ other ∈ fields.map Prod.fst := by
  induction fields with
  | nil => simp [insert]
  | cons field rest ih =>
    obtain ⟨key, old⟩ := field
    by_cases hk : key = name
    · simp [insert, hk]
    · by_cases hlt : name < key
      · simp [insert, hk, hlt]
      · simp only [insert, hk, hlt, ↓reduceIte, List.map_cons, List.mem_cons, ih]
        grind

theorem Sorted.insert {fields : Fields α} (h : Sorted fields) (name : String) (value : α) :
    Sorted (Fields.insert name value fields) := by
  induction fields with
  | nil => simp [Fields.insert, Sorted]
  | cons field rest ih =>
    obtain ⟨key, old⟩ := field
    obtain ⟨hkey, hrest⟩ := List.pairwise_cons.1 h
    by_cases hk : key = name
    · subst hk
      simpa [Fields.insert, Sorted] using h
    · by_cases hlt : name < key
      · simp only [Fields.insert, hk, hlt, ↓reduceIte]
        refine List.pairwise_cons.2 ⟨fun other ho => ?_, h⟩
        rcases List.mem_cons.1 ho with rfl | ho
        · exact hlt
        · exact String.lt_trans hlt (hkey other ho)
      · simp only [Fields.insert, hk, hlt, ↓reduceIte]
        refine List.pairwise_cons.2 ⟨fun other ho => ?_, ih hrest⟩
        rcases mem_names_insert.1 ho with rfl | ho
        · exact Std.lt_of_le_of_ne (String.not_lt.1 hlt) hk
        · exact hkey other ho

theorem sorted_ofList (entries : List (String × α)) : Sorted (ofList entries) := by
  suffices h : ∀ fields : Fields α, Sorted fields →
      Sorted (entries.foldl (fun fields (name, value) => Fields.insert name value fields) fields) from
    h [] List.Pairwise.nil
  induction entries with
  | nil => exact fun _ h => h
  | cons entry entries ih => exact fun fields h => ih _ (h.insert _ _)

end Fields

end EntitySql
