import EntitySql.Metadata.Entity

/-! # Entities that keep their names

An entity under declaration that keeps the names of its table and of its columns. A setting works out the
names that it brings, and a naming strategy works out again all names but those that are declared. -/

namespace EntitySql
variable {n : Nat}

/-- A property with the name of its column. -/
@[ext]
structure NamedProperty (n : Nat) where
  property : Property n
  columnName : String
  /-- A column whose name is declared has no other name. -/
  declared : ∀ column, property.column = some column → columnName = column

namespace NamedProperty

/-- A property that belongs to no entity yet: its column has the property's name. -/
def ofProperty (p : Property n) : NamedProperty n where
  property := p
  columnName := p.column.getD p.name
  declared := by
    intro column h
    rw [h, Option.getD_some]

def rename (naming : Naming) (p : NamedProperty n) : NamedProperty n :=
  match h : p.property.column with
  | some _ => p
  | none =>
    { property := p.property
      columnName := if p.property.association?.any (·.isToOne) then naming.referenceColumn p.property.name
        else naming.columnName p.property.name
      declared := by simp [h] }

end NamedProperty

/-- The property with the name that its column has under the naming strategy. -/
def Property.named (naming : Naming) (p : Property n) : NamedProperty n where
  property := p
  columnName := p.columnName naming
  declared := by
    intro column h
    simp only [columnName, h]

@[simp] theorem Property.named_property (naming : Naming) (p : Property n) :
    (p.named naming).property = p := rfl

namespace NamedProperty

/-- Whichever name the column had, it gets the one under the naming strategy. -/
@[simp] theorem rename_eq_named (naming : Naming) (p : NamedProperty n) :
    p.rename naming = p.property.named naming := by
  unfold rename
  split
  · next column h =>
    refine NamedProperty.ext rfl ?_
    simp only [Property.named, Property.columnName, h]
    exact p.declared column h
  · next h =>
    refine NamedProperty.ext rfl ?_
    simp only [Property.named, Property.columnName, h]

end NamedProperty

@[ext]
structure NamedEntity (n : Nat) where
  name : String
  schema : Option String := none
  table : Option String := none
  /-- The name of the table, without schema and quotes. -/
  baseTable : String
  naming : Naming := .raw
  escape : Bool := false
  identity : Option (NamedProperty n) := none
  properties : List (NamedProperty n) := []

namespace NamedEntity

def ofName (name : String) : NamedEntity n := { name, baseTable := Naming.raw.entityTable name }

def set (e : NamedEntity n) : EntitySetting (NamedProperty n) → NamedEntity n
  | .schema name => { e with schema := some name }
  | .table name => { e with table := some name, baseTable := name }
  | .escape on => { e with escape := on }
  | .naming naming =>
    { e with
      naming := naming
      baseTable := if e.table.isNone then naming.entityTable e.name else e.baseTable
      identity := e.identity.map (·.rename naming)
      properties := e.properties.map (·.rename naming) }
  | .identity p => { e with identity := some (p.rename e.naming) }
  | .property p => { e with properties := e.properties ++ [p.rename e.naming] }

/-- The entity that settings declare, in the order given. -/
def declare (name : String) (settings : List (EntitySetting (NamedProperty n))) : NamedEntity n :=
  settings.foldl set (ofName name)

end NamedEntity

/-- The entity with the names of its table and columns. -/
def Entity.named (e : Entity n) : NamedEntity n where
  name := e.name
  schema := e.schema
  table := e.table
  baseTable := e.baseTable
  naming := e.naming
  escape := e.escape
  identity := e.identity.map (·.named e.naming)
  properties := e.properties.map (·.named e.naming)

end EntitySql
