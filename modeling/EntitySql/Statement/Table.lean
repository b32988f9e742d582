import EntitySql.Metadata.JoinTable

/-! # Table definitions

The tables of an entity, as data and as text: one for each association that a join table links, and
the entity's own. They serve tests and development; they do not migrate data. -/

namespace EntitySql

/-- The types that columns are declared with. -/
inductive SqlType where
  | varchar
  | uuid
  | boolean
  | timestamp
  | date
  | bigint
  | int
  | tinyint
  | decimal
  | real
  | double
  | binary
deriving DecidableEq, Repr

def SqlType.text : SqlType → String
  | varchar => "VARCHAR"
  | uuid => "UUID"
  | boolean => "BOOLEAN"
  | timestamp => "TIMESTAMP"
  | date => "DATE"
  | bigint => "BIGINT"
  | int => "INT"
  | tinyint => "TINYINT"
  | decimal => "DECIMAL"
  | real => "REAL"
  | double => "DOUBLE"
  | binary => "BINARY"

/-- What stands behind a column's name. -/
inductive ColumnType where
  | declared (text : String)
  | sql (type : SqlType)
deriving DecidableEq, Repr

def ColumnType.text : ColumnType → String
  | declared text => text
  | sql type => type.text

/-- The column type of a data type; references, objects and documents have none of their own. -/
def DataType.sqlType? : DataType → Option SqlType
  | string => some .varchar
  | uuid => some .uuid
  | boolean => some .boolean
  | timestamp => some .timestamp
  | date => some .date
  | long => some .bigint
  | character | integer => some .int
  | short | byte => some .tinyint
  | bigDecimal => some .decimal
  | float => some .real
  | double => some .double
  | byteArray => some .binary
  | json | entity | object => none

/-- A column of a table definition. -/
structure ColumnDefinition where
  name : String
  type : ColumnType
  /-- Whether the column by itself is the primary key. -/
  primaryKey : Bool := false
deriving DecidableEq, Repr

def ColumnDefinition.text (c : ColumnDefinition) : String :=
  c.name ++ " " ++ c.type.text ++ (if c.primaryKey then " PRIMARY KEY" else "")

structure TableDefinition where
  name : String
  columns : List ColumnDefinition
  /-- The columns of a primary key that is declared behind all columns. -/
  compositeKey : List String := []
  /-- Whether the statement ends with a semicolon. -/
  terminated : Bool
deriving DecidableEq, Repr

def TableDefinition.text (t : TableDefinition) : String :=
  "CREATE TABLE " ++ t.name ++ " (" ++ ",".intercalate (t.columns.map (·.text))
    ++ (if t.compositeKey.isEmpty then "" else ", PRIMARY KEY(" ++ ",".intercalate t.compositeKey ++ ")")
    ++ ")" ++ (if t.terminated then ";" else "")

namespace Schema
variable {n : Nat}

/-- The type of a property's column, found in at most `fuel` steps from a reference to the identity
of its target. -/
def columnTypeWithin (s : Schema n) : (fuel : Nat) → Entity n → Property n → Outcome ColumnType
  | 0, owner, _ => .error (.endless (.identity owner.name))
  | fuel + 1, owner, p =>
    match p.definition with
    | some definition => .ok (.declared definition)
    | none =>
      match p.type.sqlType? with
      | some type => .ok (.sql type)
      | none =>
        let untyped := Error.build (.untypedColumn p.name owner.name p.type)
        match p.content with
        | .association a =>
          match (s.target a).identity with
          | some identity => s.columnTypeWithin fuel (s.target a) identity
          | none => .error untyped
        | .scalar .json => .error (.build (.jsonColumn p.name owner.name))
        | .scalar _ => if p.enumerated then .ok (.sql .varchar) else .error untyped

/-- The type of a property's column. After as many references as there are entities some identity
has come up twice, and then there is no end. -/
def columnType (s : Schema n) (owner : Entity n) (p : Property n) : Outcome ColumnType :=
  s.columnTypeWithin (n + 1) owner p

/-- The join table of an association. -/
def joinTableDefinition (s : Schema n) (e : Entity n) (p : Property n) (a : Association n) :
    Outcome TableDefinition := do
  let target := s.target a
  let identity ← linkedIdentity e
  let targetIdentity ← linkedIdentity target
  let (ownerColumn, targetColumn) ← s.joinTableColumns e p a
  let ownerType ← s.columnType e identity
  let targetType ← s.columnType target targetIdentity
  return { name := e.quote (joinTableName e p a)
           columns := [⟨e.quote ownerColumn, ownerType, false⟩,
             ⟨target.quote targetColumn, targetType, false⟩]
           terminated := false }

/-- The entity's own table. -/
def ownTableDefinition (s : Schema n) (e : Entity n) : Outcome TableDefinition := do
  let embedded := e.identity.any (·.embedded?.isSome)
  let columns ← (s.columns e).mapM fun c => do
    let type ← s.columnType e c.property
    return ColumnDefinition.mk c.text type (c.identity && !embedded)
  let key := if embedded then ((s.columns e).filter (·.identity)).map (·.text) else []
  return { name := e.tableName, columns := columns, compositeKey := key, terminated := true }

/-- All tables of an entity: join tables in the order of the properties, then its own. -/
def tableDefinitions (s : Schema n) (e : Entity n) : Outcome (List TableDefinition) := do
  let joinTables ← (e.joinTableProperties.filterMap fun p => p.association?.map (p, ·)).mapM
    fun (p, a) => s.joinTableDefinition e p a
  let own ← s.ownTableDefinition e
  return joinTables ++ [own]

/-- The statements that create the tables of an entity. -/
def createStatements (s : Schema n) (e : Entity n) : Outcome (List String) :=
  (s.tableDefinitions e).map fun tables => tables.map (·.text)

end Schema

/-- The names of an entity's tables as they stand in statements, in the order of their creation. -/
def Entity.tableNames {n : Nat} (e : Entity n) : List String :=
  (e.joinTableProperties.filterMap fun p =>
    p.association?.map fun a => e.quote (Schema.joinTableName e p a)) ++ [e.tableName]

/-- The statements that drop the tables of an entity. -/
def Entity.dropStatements {n : Nat} (e : Entity n) : List String :=
  e.tableNames.map fun table => "DROP TABLE " ++ table ++ ";"

end EntitySql
