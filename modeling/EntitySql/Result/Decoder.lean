import EntitySql.Json.Codec
import EntitySql.Query.Prepared

/-! # Decoding of results

Rows become documents: a scalar result is the first cell, a projection is an object with the cells of
the named properties. Cells are found by the name of their column, never by their position. -/

namespace EntitySql

/-- A property of a projection with the place of its cell. -/
structure DtoField where
  name : String
  index : Nat
  type : DataType
deriving DecidableEq, Repr

/-- How the rows of one result are decoded. -/
inductive RowDecoder where
  | scalar
  | dto (fields : List DtoField)
deriving DecidableEq, Repr

/-- The properties that a result kind reads; none for a scalar result. -/
def projectedProperties {n : Nat} (e : Entity n) :
    ResultKind → Outcome (Option (List (String × Property n)))
  | .scalar => .ok none
  | .entity => .error (.unsupported (.entityResult e.name))
  | .dto fields => do
    let projected ← fields.mapM fun field =>
      match e.property? field with
      | some p => Except.ok (field, p)
      | none => .error (Error.build (.unknownDtoField field e.name))
    return some projected

/-- Whether an entity's rows can be read as such a result, whatever the columns. -/
def checkProjection {n : Nat} (e : Entity n) (kind : ResultKind) : Outcome Unit := do
  let _ ← projectedProperties e kind

/-- Gives a place to a key that has none. -/
def keepFirst (places : List (String × Nat)) (key : String) (index : Nat) : List (String × Nat) :=
  if (places.lookup key).isSome then places else (key, index) :: places

/-- The places of columns by what `key` makes of their names. Of equal ones, the first is kept. -/
def placesBy (key : String → String) (columns : List String) : List (String × Nat) :=
  columns.zipIdx.foldl (fun places column => keepFirst places (key column.1) column.2) []

/-- The place of a column, looked for under its name and then in lower case. -/
def columnIndex? (columns : List String) (name : String) : Option Nat :=
  ((placesBy id columns).lookup name).or ((placesBy Text.lower columns).lookup (Text.lower name))

namespace RowDecoder
variable {n : Nat}

/-- The decoder for a result with these columns. -/
def make (e : Entity n) (kind : ResultKind) (columns : List String) : Outcome RowDecoder := do
  match ← projectedProperties e kind with
  | none => return .scalar
  | some projected =>
    let fields ← projected.mapM fun (field, p) =>
      match columnIndex? columns (e.columnName p) with
      | some index => Except.ok (DtoField.mk field index p.type)
      | none => .error (Error.build (.missingDtoColumn field e.name (e.columnName p)))
    return .dto fields

/-- The document of a cell; one that was kept as JSON text is read back. -/
def cell (codec : Codec) (field : DtoField) (value : Value) : Outcome Json :=
  match field.type, value with
  | .json, .string text =>
    (codec.decode text).mapError fun cause => .conversion (.notDecoded field.name cause)
  | type, value => value.toJson type

/-- The document of a row. A cell that the row lacks is null. -/
def document (codec : Codec) (row : List Value) : RowDecoder → Outcome Json
  | scalar =>
    match row with
    | [] => .error (.conversion .emptyRow)
    | first :: _ => first.toUntyped
  | dto fields => do
    let entries ← fields.mapM fun field => do
      return (field.name, ← cell codec field (row[field.index]?.getD .null))
    return .object (Fields.ofList entries)

/-- A row as a result of the wanted shape. -/
def decode (decoder : RowDecoder) (codec : Codec) (shape : Shape) (row : List Value) :
    Outcome Json := do
  let document ← decoder.document codec row
  (shape.read document).mapError fun cause => .conversion (.shape cause)

end RowDecoder

end EntitySql
