import EntitySql.DataType
import EntitySql.Error
import EntitySql.Metadata.Naming

/-! # Entities

Entities with their properties, and the associations by which entities of one schema refer to each
other. A schema of `n` entities numbers them, and an association names its target by number, so that
no reference is dangling and entities may refer to themselves. -/

namespace EntitySql

/-- How a property is filled when the caller does not set it. -/
inductive AutoPopulated where
  /-- The current time on insert. -/
  | created
  /-- The current time on insert and update. -/
  | updated
  /-- A fresh identifier when unset. -/
  | generated
  /-- A kind of filling that nothing implements. -/
  | custom (kind : String)
deriving DecidableEq, Repr

inductive AssociationKind where
  | oneToOne
  | manyToOne
  | oneToMany
  | manyToMany
  /-- The target's properties are columns of the owner. -/
  | embedded
deriving DecidableEq, Repr

/-- A join table as declared: a name and the columns of owner and target, all optional. -/
structure JoinTable where
  name : Option String := none
  columns : List String := []
deriving DecidableEq, Repr

structure Association (n : Nat) where
  kind : AssociationKind
  target : Fin n
  /-- The property of the target that owns the relationship. -/
  mappedBy : Option String := none
  joinTable : Option JoinTable := none
  /-- Whether unset referenced entities are persisted too. -/
  cascades : Bool := false
deriving DecidableEq, Repr

namespace Association
variable {n : Nat}

def isEmbedded (a : Association n) : Bool := a.kind = .embedded

/-- Whether the owner's table has no column for the association. -/
def isForeignKey (a : Association n) : Bool :=
  match a.kind with
  | .oneToMany | .manyToMany => true
  | .oneToOne => a.mappedBy.isSome
  | .manyToOne | .embedded => false

/-- Whether a join table links the two entities. -/
def isJoinTable (a : Association n) : Bool := a.isForeignKey && a.mappedBy.isNone

/-- Whether the owner's table has a column with the target's identity. -/
def isToOne (a : Association n) : Bool := !a.isForeignKey && !a.isEmbedded

end Association

/-- What a property holds: a value of some type, or other entities. -/
inductive PropertyContent (n : Nat) where
  | scalar (type : DataType)
  | association (a : Association n)
deriving DecidableEq, Repr

structure Property (n : Nat) where
  name : String
  content : PropertyContent n
  /-- The column name, where it does not follow from the naming strategy. -/
  column : Option String := none
  /-- What a table definition says behind the column name, in place of a type. -/
  definition : Option String := none
  /-- Whether the database generates the value. -/
  generated : Bool := false
  autoPopulated : Option AutoPopulated := none
  required : Bool := false
  /-- Whether the value is one of an enumeration. -/
  enumerated : Bool := false
deriving DecidableEq, Repr

namespace Property
variable {n : Nat}

def type (p : Property n) : DataType :=
  match p.content with
  | .scalar type => type
  | .association _ => .entity

def association? (p : Property n) : Option (Association n) :=
  match p.content with
  | .scalar _ => none
  | .association a => some a

def embedded? (p : Property n) : Option (Association n) := p.association?.filter (·.isEmbedded)

def isForeignKey (p : Property n) : Bool := p.association?.any (·.isForeignKey)

/-- The column name under a naming strategy. -/
def columnName (naming : Naming) (p : Property n) : String :=
  match p.column with
  | some column => column
  | none => if p.association?.any (·.isToOne) then naming.referenceColumn p.name
    else naming.columnName p.name

end Property

structure Entity (n : Nat) where
  name : String
  schema : Option String := none
  /-- The table name, where it does not follow from the naming strategy. -/
  table : Option String := none
  naming : Naming := .raw
  /-- Whether identifiers are quoted. -/
  escape : Bool := false
  identity : Option (Property n) := none
  /-- All other properties. -/
  properties : List (Property n) := []
deriving DecidableEq, Repr

/-- One part of an entity's declaration, in which a property is given as a `π`. -/
inductive EntitySetting (π : Type) where
  | schema (name : String)
  | table (name : String)
  | escape (on : Bool)
  | naming (naming : Naming)
  | identity (p : π)
  | property (p : π)
deriving Repr

namespace Entity
variable {n : Nat}

/-- The entity with one more setting: of all but properties the last one counts. -/
def set (e : Entity n) : EntitySetting (Property n) → Entity n
  | .schema name => { e with schema := some name }
  | .table name => { e with table := some name }
  | .escape on => { e with escape := on }
  | .naming naming => { e with naming := naming }
  | .identity p => { e with identity := some p }
  | .property p => { e with properties := e.properties ++ [p] }

/-- The entity that settings declare, in the order given. -/
def declare (name : String) (settings : List (EntitySetting (Property n))) : Entity n :=
  settings.foldl set { name }

def requiredIdentity (e : Entity n) : Outcome (Property n) :=
  match e.identity with
  | some identity => .ok identity
  | none => .error (.build (.noIdentity e.name))

/-- The property of that name, the identity last. -/
def property? (e : Entity n) (name : String) : Option (Property n) :=
  (e.properties ++ e.identity.toList).find? (·.name = name)

/-- The table name without schema and quotes. -/
def baseTable (e : Entity n) : String := e.table.getD (e.naming.entityTable e.name)

def quote (e : Entity n) (identifier : String) : String :=
  if e.escape then quoteIdentifier identifier else identifier

/-- The table as it stands in statements. -/
def tableName (e : Entity n) : String :=
  match e.schema with
  | some schema => e.quote schema ++ "." ++ e.quote e.baseTable
  | none => e.quote e.baseTable

/-- The alias of the entity's table at the root of a query. -/
def rootAlias (e : Entity n) : String := Text.snakeCase (Text.decapitalize e.name) ++ "_"

/-- The column name of a property, without quotes. -/
def columnName (e : Entity n) (p : Property n) : String := p.columnName e.naming

/-- The column name of a property of an embedded entity, without quotes. -/
def embeddedColumnName (e : Entity n) (owner sub : Property n) : String :=
  sub.column.getD (e.naming.columnName (owner.name ++ Text.capitalize sub.name))

def joinTableProperties (e : Entity n) : List (Property n) :=
  e.properties.filter fun p => p.association?.any (·.isJoinTable)

end Entity

/-- Entities that refer to each other by number. -/
structure Schema (n : Nat) where
  entity : Fin n → Entity n

/-- A column of an entity's table. -/
structure Column (n : Nat) where
  /-- The path that the column's value is bound by: a property, or a property, a dot and a property
  of the embedded entity. -/
  path : String
  /-- The name as it stands in statements. -/
  text : String
  /-- The property with the value, for an embedded entity the inner one. -/
  property : Property n
  /-- Whether the column belongs to the identity. -/
  identity : Bool

namespace Schema
variable {n : Nat}

def target (s : Schema n) (a : Association n) : Entity n := s.entity a.target

/-- The columns that a property has in the table of the entity. -/
def columnsOf (s : Schema n) (e : Entity n) (identity : Bool) (p : Property n) : List (Column n) :=
  if p.isForeignKey then []
  else match p.embedded? with
    | some a => (s.target a).properties.map fun sub =>
      { path := p.name ++ "." ++ sub.name
        text := e.quote (e.embeddedColumnName p sub)
        property := sub
        identity := identity }
    | none =>
      [{ path := p.name, text := e.quote (e.columnName p), property := p, identity := identity }]

/-- Every column of the entity's table, those of the identity last. -/
def columns (s : Schema n) (e : Entity n) : List (Column n) :=
  e.properties.flatMap (s.columnsOf e false) ++ e.identity.toList.flatMap (s.columnsOf e true)

end Schema

end EntitySql
