import EntitySql.DataType
import EntitySql.Result.Shape
import EntitySql.Text.Index
import EntitySql.Value.Basic

/-! # Errors

Why statements cannot be compiled, prepared, bound or decoded. Each kind of error has its causes; the
wording of all of them is in the functions named `message`. -/

namespace EntitySql

/-- Entity metadata cannot be turned into SQL, or a query or bean does not go with it. -/
inductive BuildError where
  | noIdentity (entity : String)
  | noInsertableColumn (entity : String)
  | noUpdatableColumn (entity : String)
  | notJoinTable (property entity : String)
  | joinColumnCount (property entity : String)
  | linkWithoutIdentity (entity : String)
  | jsonColumn (property entity : String)
  | untypedColumn (property entity : String) (type : DataType)
  | deleteWithJoins (entity : String)
  | emptyJoinPath
  | unknownJoinProperty (path entity segment : String)
  | notAnAssociation (path segment entity : String)
  | joinedWithoutIdentity (entity : String)
  | joinOwnerWithoutIdentity (entity : String)
  | unknownMappedProperty (property entity : String)
  | unknownPath (entity path : String)
  | noSingleColumn (path entity : String)
  | joinRequired (path entity owner : String)
  | unknownBoundProperty (entity property path : String)
  | notEmbedded (property entity : String)
  | unknownEmbeddedProperty (entity property : String)
  | noColumnToBind (property : String)
  | unsetReference (entity property : String)
  | unsetOwner (entity property : String)
  | unknownProperty (entity property : String)
  | unknownDtoField (field entity : String)
  | missingDtoColumn (field entity column : String)
deriving DecidableEq, Repr

def BuildError.message : BuildError → String
  | noIdentity entity => s!"entity {entity} declares no identity"
  | noInsertableColumn entity => s!"entity {entity} has no insertable columns"
  | noUpdatableColumn entity => s!"entity {entity} has no updatable columns"
  | notJoinTable property entity =>
    "join table inserts can only be built for foreign key associations mapped with a join table, "
      ++ s!"[{property}] of entity {entity} is not one"
  | joinColumnCount property entity =>
    s!"expected exactly 2 join columns for association [{property}] of entity: {entity}"
  | linkWithoutIdentity entity =>
    s!"cannot have a foreign key association without an ID on entity: {entity}"
  | jsonColumn property entity =>
    s!"unable to create table column for property [{property}] of entity [{entity}]: "
      ++ "JSON not supported natively"
  | untypedColumn property entity type =>
    s!"unable to create table column for property [{property}] of entity [{entity}] "
      ++ "with unknown data type: " ++ type.name
  | deleteWithJoins entity => s!"DELETE on entity [{entity}] cannot join associations"
  | emptyJoinPath => "invalid association path []"
  | unknownJoinProperty path entity segment =>
    s!"invalid association path [{path}]: entity {entity} has no property {segment}"
  | notAnAssociation path segment entity =>
    s!"invalid association path [{path}]: property {segment} of entity {entity} is not an association"
  | joinedWithoutIdentity entity => s!"associated entity [{entity}] defines no ID, cannot join"
  | joinOwnerWithoutIdentity entity => s!"cannot join on entity [{entity}] that has no declared ID"
  | unknownMappedProperty property entity =>
    "foreign key association with mappedBy references a property that doesn't exist "
      ++ s!"[{property}] of entity: {entity}"
  | unknownPath entity path => s!"cannot query entity [{entity}] on non-existent property: {path}"
  | noSingleColumn path entity =>
    s!"property [{path}] of entity [{entity}] has no single column, "
      ++ "query one of its properties instead"
  | joinRequired path entity owner =>
    s!"property path [{path}] of entity [{entity}] requires a join on [{owner}]"
  | unknownBoundProperty entity property path =>
    s!"entity {entity} has no property [{property}] bound by path {path}"
  | notEmbedded property entity => s!"property [{property}] of entity {entity} is not embedded"
  | unknownEmbeddedProperty entity property => s!"embedded entity {entity} has no property [{property}]"
  | noColumnToBind property => s!"foreign key association [{property}] has no column to bind"
  | unsetReference entity property =>
    s!"referenced entity {entity} has no identity after cascade through [{property}]"
  | unsetOwner entity property => s!"entity {entity} has no identity to link through [{property}]"
  | unknownProperty entity property => s!"entity {entity} has no property [{property}]"
  | unknownDtoField field entity =>
    s!"DTO projection defines a property [{field}] that doesn't exist on root entity: {entity}"
  | missingDtoColumn field entity column =>
    s!"DTO property [{field}] of entity {entity} has no column [{column}] in the result"

/-- The declaration of a query or repository is incomplete or malformed. -/
inductive ConfigurationError where
  | emptyBindingPath (argument : Nat)
  | invalidBinding (text : String) (cause : IndexError)
  | missingArgument (index supplied : Nat)
  | notAnObject (index : Nat) (path : String) (found : Value)
  | malformedIn (query : String)
  | missingBinding (slot : Nat)
  | unknownSchemaMode (text : String)
  | generatedNotUuid (property : String) (type : DataType)
  | unknownAutoPopulation (kind property : String)
  | noInsert (repository entity : String)
  | noUpdate (repository entity : String)
  /-- A refusal in the words of the caller. -/
  | custom (text : String)
deriving Repr

def ConfigurationError.message : ConfigurationError → String
  | emptyBindingPath argument =>
    s!"nested parameter binding for argument {argument} has no property path"
  | invalidBinding text cause => s!"invalid parameter binding [{text}]: " ++ cause.message
  | missingArgument index supplied =>
    s!"parameter binding refers to argument {index}, but {supplied} were supplied"
  | notAnObject index path found =>
    s!"parameter binding {index}.{path} reads a property off a non-object argument: "
      ++ found.describe
  | malformedIn query => s!"malformed IN expression in query: {query}"
  | missingBinding slot => s!"IN expression refers to missing binding {slot}"
  | unknownSchemaMode text =>
    s!"unknown schema generation mode [{text}], expected one of none, create, create-drop"
  | generatedNotUuid property type =>
    s!"generated value for property [{property}] requires a UUID type, found " ++ type.name
  | unknownAutoPopulation kind property =>
    s!"unsupported auto-populated kind [{kind}] on property [{property}]"
  | noInsert repository entity =>
    s!"no insert statement present in repository {repository} for entity {entity}"
  | noUpdate repository entity =>
    s!"no update statement present in repository {repository} for entity {entity}"
  | custom text => text

/-- The operation is declared but not offered. -/
inductive UnsupportedError where
  | entityResult (entity : String)
  | findById (entity : String)
  | count (entity : String)
  | deleteAll (entity : String)
deriving DecidableEq, Repr

def UnsupportedError.message : UnsupportedError → String
  | entityResult entity =>
    s!"entity mappings not supported, project the columns of {entity} into a DTO"
  | findById entity =>
    s!"find by id is not supported for {entity}, execute the SQL query directly"
  | count entity =>
    s!"count without an explicit query is not supported for {entity}, use a COUNT projection instead"
  | deleteAll entity =>
    s!"batched delete is not supported for {entity}, execute a DELETE query instead"

/-- A run-time value does not fit where it is bound or decoded. -/
inductive ConversionError where
  | mismatch (type : DataType) (found : Json)
  | notATimestamp (text : String)
  | notFinite (bits : UInt64)
  | notEncoded (property cause : String)
  | notDecoded (property cause : String)
  | emptyRow
  | notABean (entity : String) (found : Json)
  | shape (cause : ShapeError)
deriving Repr

def ConversionError.message : ConversionError → String
  | mismatch type found => "expected " ++ type.name ++ " value, found " ++ found.print
  | notATimestamp text =>
    s!"unsupported timestamp: {text}; expected RFC3339 or \"%Y-%m-%d %H:%M:%S%.f\" format"
  | notFinite bits =>
    NumberStyle.description.format .binary64 bits.toNat ++ " cannot be represented as JSON"
  | notEncoded property cause => s!"cannot encode property [{property}]: {cause}"
  | notDecoded property cause => s!"cannot decode property [{property}]: {cause}"
  | emptyRow => "row has no columns"
  | notABean entity found => s!"entity {entity} does not serialize to an object: " ++ found.print
  | shape cause => cause.message

/-- Why there is no answer at all. -/
inductive EndlessError where
  /-- The identity of the entity refers to itself, directly or by way of other identities, so that it
  has no column type. -/
  | identity (entity : String)
  /-- Cascades are nested deeper than the objects they start from. -/
  | cascade (entity : String)
deriving DecidableEq, Repr

def EndlessError.message : EndlessError → String
  | identity entity => s!"the identity of entity {entity} refers to itself"
  | cascade entity => s!"cascades do not end at entity {entity}"

inductive Error where
  | build (cause : BuildError)
  | configuration (cause : ConfigurationError)
  | unsupported (cause : UnsupportedError)
  | conversion (cause : ConversionError)
  /-- A failure of the cache, the cursor or the codec, in its own words. -/
  | execution (text : String)
  /-- There is no answer. -/
  | endless (cause : EndlessError)
deriving Repr

def Error.message : Error → String
  | build cause => "build error: " ++ cause.message
  | configuration cause => "configuration error: " ++ cause.message
  | unsupported cause => "unsupported operation: " ++ cause.message
  | conversion cause => "conversion error: " ++ cause.message
  | execution text => text
  | endless cause => cause.message

/-- Results of this library. -/
abbrev Outcome (α : Type) := Except Error α

end EntitySql
