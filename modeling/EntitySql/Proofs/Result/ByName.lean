import EntitySql.Proofs.Query.Names
import EntitySql.Result.Decoder
import Mathlib.Logic.Equiv.Defs

/-! # Results read by name

A field of a projection is read from the column of its property's name, and the two indexes of the columns find what
a search from the first column on finds (`columnIndex?_eq_some_iff`). So the place of a column does not matter, as
long as no other has its name in lower case (`RowDecoder.decode_byName`). -/

namespace EntitySql
variable {n k : Nat} {e : Entity n} {columns : List String} {name : String} {i : Nat}

/-! ### Places of columns -/

theorem lookup_keepFirst (places : List (String × Nat)) (key other : String) (index : Nat) :
    (keepFirst places key index).lookup other =
      (places.lookup other).or (if key = other then some index else none) := by
  unfold keepFirst
  by_cases hkey : key = other
  · subst hkey
    cases hplace : places.lookup key with
    | none => simp
    | some place => simp [hplace]
  · have hne : (other == key) = false := by simpa using Ne.symm hkey
    rw [if_neg hkey, Option.or_none]
    split
    · rfl
    · rw [List.lookup_cons, hne]

theorem lookup_foldl_keepFirst (key : String → String) (columns : List String) (start : Nat)
    (places : List (String × Nat)) (name : String) :
    ((columns.zipIdx start).foldl (fun places column => keepFirst places (key column.1) column.2) places).lookup
      name = (places.lookup name).or ((columns.findIdx? (key · = name)).map (· + start)) := by
  induction columns generalizing start places with
  | nil => simp
  | cons column columns ih =>
    rw [List.zipIdx_cons, List.foldl_cons, ih, lookup_keepFirst, List.findIdx?_cons, Option.or_assoc]
    by_cases hkey : key column = name
    · simp [hkey]
    · simp only [hkey, decide_false, if_false, Option.none_or, Option.map_map, Bool.false_eq_true]
      congr 2
      funext index
      show index + (start + 1) = index + 1 + start
      omega

/-- The index by a key finds the first column with the key. -/
theorem lookup_placesBy (key : String → String) (columns : List String) (name : String) :
    (placesBy key columns).lookup name = columns.findIdx? (key · = name) := by
  simpa [placesBy] using lookup_foldl_keepFirst key columns 0 [] name

/-- The first column with a property stands in this place. -/
structure FirstAt (p : String → Prop) (columns : List String) (i : Nat) : Prop where
  found : ∃ column, columns[i]? = some column ∧ p column
  first : ∀ j < i, ∀ column, columns[j]? = some column → ¬ p column

theorem findIdx?_eq_some_iff_firstAt {p : String → Prop} [DecidablePred p] :
    columns.findIdx? (fun column => p column) = some i ↔ FirstAt p columns i := by
  rw [List.findIdx?_eq_some_iff_getElem]
  constructor
  · rintro ⟨hi, hfound, hfirst⟩
    refine ⟨⟨columns[i], List.getElem?_eq_getElem hi, by simpa using hfound⟩, fun j hj column hcolumn => ?_⟩
    obtain ⟨hlength, rfl⟩ := List.getElem?_eq_some_iff.1 hcolumn
    simpa using hfirst j hj
  · rintro ⟨⟨column, hcolumn, hfound⟩, hfirst⟩
    obtain ⟨hi, rfl⟩ := List.getElem?_eq_some_iff.1 hcolumn
    refine ⟨hi, by simpa using hfound, fun j hj => ?_⟩
    simpa using hfirst j hj _ (List.getElem?_eq_getElem (by omega))

/-- A name is read from the first column of the name, or else from the first one of the name in lower case. -/
inductive ReadAt (columns : List String) (name : String) (i : Nat) : Prop
  | exact (h : FirstAt (· = name) columns i)
  | folded (habsent : name ∉ columns) (h : FirstAt (fun column => Text.lower column = Text.lower name) columns i)

theorem columnIndex?_eq_some_iff : columnIndex? columns name = some i ↔ ReadAt columns name i := by
  rw [columnIndex?, lookup_placesBy, lookup_placesBy, Option.or_eq_some_iff, List.findIdx?_eq_none_iff,
    findIdx?_eq_some_iff_firstAt (p := (id · = name)), findIdx?_eq_some_iff_firstAt]
  have habsent : (∀ column ∈ columns, decide (id column = name) = false) ↔ name ∉ columns := by
    simp only [id, decide_eq_false_iff_not]
    exact ⟨fun h hmem => h name hmem rfl, fun h column hmem heq => h (heq ▸ hmem)⟩
  rw [habsent]
  constructor
  · rintro (hexact | ⟨habsent, hfolded⟩)
    · exact .exact hexact
    · exact .folded habsent hfolded
  · rintro (hexact | ⟨habsent, hfolded⟩)
    · exact .inl hexact
    · exact .inr ⟨habsent, hfolded⟩

theorem ReadAt.lt_length (h : ReadAt columns name i) : i < columns.length := by
  obtain ⟨column, hcolumn⟩ : ∃ column, columns[i]? = some column := by
    cases h with
    | exact h => exact h.found.imp fun _ => And.left
    | folded _ h => exact h.found.imp fun _ => And.left
  exact (List.getElem?_eq_some_iff.1 hcolumn).1

/-- When no two columns are equal in lower case, there is one column for a name at most. -/
theorem readAt_ofFn_iff {columns : Fin k → String} (hdistinct : Function.Injective (Text.lower ∘ columns)) :
    ReadAt (List.ofFn columns) name i ↔ ∃ a : Fin k, i = a ∧ Text.lower (columns a) = Text.lower name := by
  have hget : ∀ (j : Nat) (column : String), (List.ofFn columns)[j]? = some column →
      ∃ b : Fin k, j = b ∧ columns b = column := by
    intro j column h
    rw [List.getElem?_ofFn] at h
    split at h
    · next hj => exact ⟨⟨j, hj⟩, rfl, Option.some.inj h⟩
    · cases h
  have hself : ∀ a : Fin k, (List.ofFn columns)[(a : Nat)]? = some (columns a) := fun a => by simp
  -- an earlier column with the name in lower case would be the same column
  have hfirst : ∀ a : Fin k, Text.lower (columns a) = Text.lower name → ∀ j < (a : Nat), ∀ column,
      (List.ofFn columns)[j]? = some column → Text.lower column ≠ Text.lower name := by
    rintro a ha j hj column hcolumn heq
    obtain ⟨b, rfl, rfl⟩ := hget j column hcolumn
    obtain rfl : b = a := hdistinct (heq.trans ha.symm)
    omega
  constructor
  · intro h
    cases h with
    | exact h =>
      obtain ⟨column, hcolumn, rfl⟩ := h.found
      obtain ⟨a, rfl, rfl⟩ := hget i column hcolumn
      exact ⟨a, rfl, rfl⟩
    | folded _ h =>
      obtain ⟨column, hcolumn, hlower⟩ := h.found
      obtain ⟨a, rfl, rfl⟩ := hget i column hcolumn
      exact ⟨a, rfl, hlower⟩
  · rintro ⟨a, rfl, ha⟩
    by_cases hname : name ∈ List.ofFn columns
    · obtain ⟨b, rfl⟩ := List.mem_ofFn.1 hname
      obtain rfl : a = b := hdistinct ha
      refine .exact ⟨⟨_, hself a, rfl⟩, fun j hj column hcolumn heq => ?_⟩
      exact hfirst a ha j hj column hcolumn (heq ▸ rfl)
    · exact .folded hname ⟨⟨_, hself a, ha⟩, hfirst a ha⟩

/-- A column that is moved is found where it has been moved to. -/
theorem columnIndex?_perm {columns : Fin k → String} (hdistinct : Function.Injective (Text.lower ∘ columns))
    (σ : Equiv.Perm (Fin k)) (name : String) :
    Option.Rel (fun i j : Nat => ∃ a : Fin k, i = σ.symm a ∧ j = a)
      (columnIndex? (List.ofFn (columns ∘ σ)) name) (columnIndex? (List.ofFn columns) name) := by
  have hmoved : Function.Injective (Text.lower ∘ columns ∘ σ) := hdistinct.comp σ.injective
  cases hplace : columnIndex? (List.ofFn columns) name with
  | none =>
    have hnone : columnIndex? (List.ofFn (columns ∘ σ)) name = none := by
      by_contra hsome
      obtain ⟨i, hi⟩ := Option.ne_none_iff_exists'.1 hsome
      obtain ⟨a, -, ha⟩ := (readAt_ofFn_iff hmoved).1 (columnIndex?_eq_some_iff.1 hi)
      have hread := columnIndex?_eq_some_iff.2 ((readAt_ofFn_iff hdistinct).2 ⟨σ a, rfl, ha⟩)
      rw [hplace] at hread
      cases hread
    rw [hnone]
    exact .none
  | some j =>
    obtain ⟨a, rfl, ha⟩ := (readAt_ofFn_iff hdistinct).1 (columnIndex?_eq_some_iff.1 hplace)
    have hread : ReadAt (List.ofFn (columns ∘ σ)) name (σ.symm a) :=
      (readAt_ofFn_iff hmoved).2 ⟨σ.symm a, rfl, by simpa using ha⟩
    rw [columnIndex?_eq_some_iff.2 hread]
    exact .some ⟨a, rfl, rfl⟩

/-! ### Fields of a projection -/

/-- How a field of a projection is read from columns. -/
structure DtoField.ReadFrom (e : Entity n) (columns : List String) (field : String) (read : DtoField) : Prop where
  name : read.name = field
  property : ∃ p, e.property? field = some p ∧ read.type = p.type ∧ ReadAt columns (e.columnName p) read.index

/-- The property of a field. -/
def projectedField (e : Entity n) (field : String) : Outcome (String × Property n) :=
  match e.property? field with
  | some p => .ok (field, p)
  | none => .error (.build (.unknownDtoField field e.name))

/-- The column of a field. -/
def placedField (e : Entity n) (columns : List String) (projected : String × Property n) : Outcome DtoField :=
  let (field, p) := projected
  match columnIndex? columns (e.columnName p) with
  | some index => .ok ⟨field, index, p.type⟩
  | none => .error (.build (.missingDtoColumn field e.name (e.columnName p)))

namespace RowDecoder

/-- First all properties are looked for, and then their columns. -/
theorem make_dto (e : Entity n) (fields columns : List String) : make e (.dto fields) columns = do
    let projected ← fields.mapM (projectedField e)
    return .dto (← projected.mapM (placedField e columns)) := by
  show (fields.mapM (projectedField e) >>= fun projected => pure (some projected)) >>= _ = _
  cases fields.mapM (projectedField e) <;> rfl

variable {fields : List String} {codec : Codec} {row : List Value} {decoder : RowDecoder}

theorem placedField_eq_ok {field : String} {p : Property n} {read : DtoField} :
    placedField e columns (field, p) = .ok read ↔
      read.name = field ∧ read.type = p.type ∧ ReadAt columns (e.columnName p) read.index := by
  rw [← columnIndex?_eq_some_iff]
  dsimp only [placedField]
  cases columnIndex? columns (e.columnName p) with
  | none => simp
  | some index =>
    obtain ⟨name, place, type⟩ := read
    simp only [Except.ok.injEq, DtoField.mk.injEq, Option.some.injEq]
    exact ⟨fun ⟨h, h', h''⟩ => ⟨h.symm, h''.symm, h'⟩, fun ⟨h, h'', h'⟩ => ⟨h.symm, h', h''.symm⟩⟩

theorem projectedField_eq_ok {field name : String} {p : Property n} :
    projectedField e field = .ok (name, p) ↔ name = field ∧ e.property? field = some p := by
  unfold projectedField
  cases e.property? field with
  | none => simp
  | some q =>
    simp only [Except.ok.injEq, Prod.mk.injEq, Option.some.injEq]
    exact and_congr_left' eq_comm

theorem readFrom_iff {field : String} {read : DtoField} : read.ReadFrom e columns field ↔
    ∃ projected, projectedField e field = .ok projected ∧ placedField e columns projected = .ok read := by
  constructor
  · rintro ⟨rfl, p, hproperty, htype, hplace⟩
    refine ⟨(read.name, p), projectedField_eq_ok.2 ⟨rfl, hproperty⟩, ?_⟩
    exact placedField_eq_ok.2 ⟨rfl, htype, hplace⟩
  · rintro ⟨⟨name, p⟩, hprojected, hplaced⟩
    obtain ⟨rfl, hproperty⟩ := projectedField_eq_ok.1 hprojected
    obtain ⟨hname, htype, hplace⟩ := placedField_eq_ok.1 hplaced
    exact ⟨hname, p, hproperty, htype, hplace⟩

theorem make_eq_ok : make e (.dto fields) columns = .ok decoder ↔
    ∃ reads, List.Forall₂ (DtoField.ReadFrom e columns) fields reads ∧ decoder = .dto reads := by
  rw [make_dto]
  simp only [Outcome.bind_eq_ok, Outcome.pure_eq_ok, Outcome.mapM_eq_ok]
  constructor
  · rintro ⟨projected, hprojected, reads, hreads, rfl⟩
    refine ⟨reads, ?_, rfl⟩
    induction hprojected generalizing reads with
    | nil =>
      obtain rfl := List.forall₂_nil_left_iff.1 hreads
      exact .nil
    | cons hfirst _ ih =>
      obtain ⟨read, rest, hread, hrest, rfl⟩ := List.forall₂_cons_left_iff.1 hreads
      exact .cons (readFrom_iff.2 ⟨_, hfirst, hread⟩) (ih rest hrest)
  · rintro ⟨reads, hreads, rfl⟩
    suffices ∃ projected,
        List.Forall₂ (fun field found => projectedField e field = .ok found) fields projected ∧
        List.Forall₂ (fun found read => placedField e columns found = .ok read) projected reads by
      obtain ⟨projected, hprojected, hplaced⟩ := this
      exact ⟨projected, hprojected, reads, hplaced, rfl⟩
    induction hreads with
    | nil => exact ⟨[], .nil, .nil⟩
    | cons hfirst _ ih =>
      obtain ⟨found, hfound, hread⟩ := readFrom_iff.1 hfirst
      obtain ⟨projected, hprojected, hplaced⟩ := ih
      exact ⟨found :: projected, .cons hfound hprojected, .cons hread hplaced⟩

/-- A decoder can be made when every field is a property that has a column. -/
theorem exists_make_iff : (∃ decoder, make e (.dto fields) columns = .ok decoder) ↔
    ∀ field ∈ fields, ∃ p i, e.property? field = some p ∧ ReadAt columns (e.columnName p) i := by
  have hfield : ∀ field, (∃ read, DtoField.ReadFrom e columns field read) ↔
      ∃ p i, e.property? field = some p ∧ ReadAt columns (e.columnName p) i := by
    intro field
    constructor
    · rintro ⟨read, -, p, hproperty, -, hplace⟩
      exact ⟨p, read.index, hproperty, hplace⟩
    · rintro ⟨p, i, hproperty, hplace⟩
      exact ⟨⟨field, i, p.type⟩, rfl, p, hproperty, rfl, hplace⟩
  simp only [make_eq_ok, ← hfield]
  constructor
  · rintro ⟨_, reads, hreads, -⟩ field hmem
    induction hreads with
    | nil => cases hmem
    | cons hfirst _ ih =>
      rcases List.mem_cons.1 hmem with rfl | hmem
      · exact ⟨_, hfirst⟩
      · exact ih hmem
  · intro h
    suffices ∃ reads, List.Forall₂ (DtoField.ReadFrom e columns) fields reads by
      obtain ⟨reads, hreads⟩ := this
      exact ⟨_, reads, hreads, rfl⟩
    induction fields with
    | nil => exact ⟨[], .nil⟩
    | cons field fields ih =>
      obtain ⟨read, hread⟩ := h field List.mem_cons_self
      obtain ⟨reads, hreads⟩ := ih fun field hmem => h field (List.mem_cons_of_mem _ hmem)
      exact ⟨read :: reads, .cons hread hreads⟩

/-! ### Rows -/

/-- How a field is read from a row, where `columns` are the names of the cells. -/
structure ReadCell (e : Entity n) (columns : List String) (row : List Value) (field : String)
    (read : DtoField × Value) : Prop where
  column : read.1.ReadFrom e columns field
  cell : row[read.1.index]? = some read.2

/-- The document of fields with their cells. -/
def cellsDocument (codec : Codec) (reads : List (DtoField × Value)) : Outcome Json := do
  let entries ← reads.mapM fun (field, value) => do return (field.name, ← cell codec field value)
  return .object (Fields.ofList entries)

/-- The document of a row is that of the cells in the columns of the fields. -/
theorem document_of_make (hdecoder : make e (.dto fields) columns = .ok decoder) (codec : Codec)
    (hrow : row.length = columns.length) : ∃ reads, List.Forall₂ (ReadCell e columns row) fields reads ∧
      decoder.document codec row = cellsDocument codec reads := by
  obtain ⟨reads, hreads, rfl⟩ := make_eq_ok.1 hdecoder
  refine ⟨reads.map fun read => (read, row[read.index]?.getD .null), ?_, ?_⟩
  · refine List.forall₂_map_right_iff.2 (hreads.imp fun field read hread => ⟨hread, ?_⟩)
    obtain ⟨p, -, -, hplace⟩ := hread.property
    have hindex : read.index < row.length := hrow ▸ hplace.lt_length
    simp [List.getElem?_eq_getElem hindex]
  · rw [cellsDocument, List.mapM_map]
    rfl

/-! ### Columns that are moved -/

/-- The results of rows, for the error of a decoder that cannot be made. -/
def results (e : Entity n) (fields : List String) (codec : Codec) (shape : Shape) (columns : List String)
    (rows : List (List Value)) : Outcome (List (Outcome Json)) := do
  let decoder ← make e (.dto fields) columns
  return rows.map (decoder.decode codec shape)

/-- A field read from a column that has been moved. -/
structure Moved (σ : Equiv.Perm (Fin k)) (moved read : DtoField) : Prop where
  name : moved.name = read.name
  type : moved.type = read.type
  place : ∃ a : Fin k, moved.index = σ.symm a ∧ read.index = a

theorem placedField_perm {columns : Fin k → String} (hdistinct : Function.Injective (Text.lower ∘ columns))
    (σ : Equiv.Perm (Fin k)) (projected : String × Property n) :
    Outcome.Agree (Moved σ) (placedField e (List.ofFn (columns ∘ σ)) projected)
      (placedField e (List.ofFn columns) projected) := by
  obtain ⟨field, p⟩ := projected
  have hplace := columnIndex?_perm hdistinct σ (e.columnName p)
  dsimp only [placedField]
  generalize columnIndex? (List.ofFn (columns ∘ σ)) (e.columnName p) = moved at hplace ⊢
  generalize columnIndex? (List.ofFn columns) (e.columnName p) = place at hplace ⊢
  cases hplace with
  | some hplace => exact .ok ⟨rfl, rfl, hplace⟩
  | none => exact .error _

/-- Decoders for moved columns read the fields from there, and fail as they would have failed. -/
theorem make_perm {columns : Fin k → String} (hdistinct : Function.Injective (Text.lower ∘ columns))
    (σ : Equiv.Perm (Fin k)) (fields : List String) :
    Outcome.Agree (fun moved decoder => ∃ reads reads', moved = .dto reads ∧ decoder = .dto reads' ∧
        List.Forall₂ (Moved σ) reads reads')
      (make e (.dto fields) (List.ofFn (columns ∘ σ))) (make e (.dto fields) (List.ofFn columns)) := by
  rw [make_dto, make_dto]
  refine (Outcome.Agree.of_eq rfl).bind fun projected _ hsame => ?_
  subst hsame
  have hplaced : Outcome.Agree (List.Forall₂ (Moved σ))
      (projected.mapM (placedField e (List.ofFn (columns ∘ σ))))
      (projected.mapM (placedField e (List.ofFn columns))) := by
    refine .mapM (R := Eq) (fun found _ hsame => ?_) (List.forall₂_same.2 fun _ _ => rfl)
    subst hsame
    exact placedField_perm hdistinct σ found
  exact hplaced.bind fun reads reads' hmoved => .ok ⟨reads, reads', rfl, rfl, hmoved⟩

theorem cell_perm {σ : Equiv.Perm (Fin k)} {moved read : DtoField} (h : Moved σ moved read) (codec : Codec)
    (row : Fin k → Value) :
    cell codec moved ((List.ofFn (row ∘ σ))[moved.index]?.getD .null) =
      cell codec read ((List.ofFn row)[read.index]?.getD .null) := by
  obtain ⟨a, hmoved, hread⟩ := h.place
  have hvalue : (List.ofFn (row ∘ σ))[moved.index]? = (List.ofFn row)[read.index]? := by
    rw [hmoved, hread]
    simp
  unfold cell
  rw [hvalue, h.type, h.name]

theorem document_perm {σ : Equiv.Perm (Fin k)} {reads reads' : List DtoField}
    (hmoved : List.Forall₂ (Moved σ) reads reads') (codec : Codec) (row : Fin k → Value) :
    (dto reads).document codec (List.ofFn (row ∘ σ)) = (dto reads').document codec (List.ofFn row) := by
  refine Outcome.Agree.eq (.bind (R := List.Forall₂ Eq) (.mapM (fun moved read h => .of_eq ?_) hmoved) ?_)
  · rw [cell_perm h, h.name]
  · intro entries entries' hsame
    rw [List.forall₂_eq_eq_eq] at hsame
    exact .of_eq (by rw [hsame])

theorem results_perm {columns : Fin k → String} (hdistinct : Function.Injective (Text.lower ∘ columns))
    (σ : Equiv.Perm (Fin k)) (e : Entity n) (fields : List String) (codec : Codec) (shape : Shape)
    (rows : List (Fin k → Value)) :
    results e fields codec shape (List.ofFn (columns ∘ σ)) (rows.map fun row => List.ofFn (row ∘ σ)) =
      results e fields codec shape (List.ofFn columns) (rows.map List.ofFn) := by
  refine ((make_perm hdistinct σ fields).bind fun moved decoder h => .of_eq ?_).eq
  obtain ⟨reads, reads', rfl, rfl, hmoved⟩ := h
  simp only [List.map_map]
  refine congrArg Except.ok (List.map_congr_left fun row _ => ?_)
  show (document codec _ _ >>= _) = (document codec _ _ >>= _)
  rw [document_perm hmoved]

/-- A projection is read by the names of the columns. A decoder can be made when each field is a property that has a
column: the first of its name, or else the first of its name in lower case. The document of a row is made of the
cells in these columns. When no two columns are equal in lower case, they can be moved together with the cells of all
rows: the results are the same, and so is the error of a decoder that cannot be made. -/
theorem decode_byName (e : Entity n) (fields : List String) (codec : Codec) :
    (∀ columns : List String,
      ((∃ decoder, make e (.dto fields) columns = .ok decoder) ↔
        ∀ field ∈ fields, ∃ p i, e.property? field = some p ∧ ReadAt columns (e.columnName p) i) ∧
      ∀ decoder, make e (.dto fields) columns = .ok decoder →
        ∀ row : List Value, row.length = columns.length →
          ∃ reads, List.Forall₂ (ReadCell e columns row) fields reads ∧
            decoder.document codec row = cellsDocument codec reads) ∧
    ∀ (k : Nat) (columns : Fin k → String) (σ : Equiv.Perm (Fin k)) (shape : Shape)
      (rows : List (Fin k → Value)), Function.Injective (Text.lower ∘ columns) →
      results e fields codec shape (List.ofFn (columns ∘ σ)) (rows.map fun row => List.ofFn (row ∘ σ)) =
        results e fields codec shape (List.ofFn columns) (rows.map List.ofFn) :=
  ⟨fun _ => ⟨exists_make_iff, fun _ hdecoder _ hrow => document_of_make hdecoder codec hrow⟩,
    fun _ _ σ shape rows hdistinct => results_perm hdistinct σ e fields codec shape rows⟩

/-- A title is read from a column of capitals, also when that is the first and not the second one. -/
theorem decode_byName_title :
    (∃ reads, List.Forall₂ (ReadCell Entity.book ["ID", "TITLE"] [.long 7, .string "Emma"]) ["title"] reads ∧
      (dto [⟨"title", 1, .string⟩]).document .json [.long 7, .string "Emma"] = cellsDocument .json reads) ∧
    results Entity.book ["title"] .json .any ["TITLE", "ID"] [[.string "Emma", .long 7]] =
      .ok [.ok (.object [("title", .string "Emma")])] := by
  obtain ⟨hread, hmoved⟩ := decode_byName Entity.book ["title"] .json
  have hmake : (make Entity.book (.dto ["title"]) ["ID", "TITLE"]).toOption =
      some (dto [⟨"title", 1, .string⟩]) := by decide +kernel
  refine ⟨(hread ["ID", "TITLE"]).2 _ (Outcome.eq_ok_of_toOption hmake) _ rfl, ?_⟩
  have hdistinct : ∀ a b : Fin 2, Text.lower ["ID", "TITLE"][a] = Text.lower ["ID", "TITLE"][b] → a = b := by
    decide +kernel
  refine (hmoved 2 (fun a => ["ID", "TITLE"][a]) ⟨Fin.rev, Fin.rev, Fin.rev_rev, Fin.rev_rev⟩ .any
    [fun a => [Value.long 7, .string "Emma"][a]] fun a b => hdistinct a b).trans ?_
  show (make Entity.book (.dto ["title"]) ["ID", "TITLE"] >>= _) = _
  rw [Outcome.eq_ok_of_toOption hmake]
  rfl

end RowDecoder

end EntitySql
