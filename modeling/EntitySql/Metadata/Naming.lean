import EntitySql.Text.Case

/-! # Naming strategies

How names of entities and properties become names of tables and columns. -/

namespace EntitySql

inductive Naming where
  /-- Columns keep the property name, tables are the entity name in lower case. -/
  | raw
  /-- `totalPages` becomes `total_pages`, `BookAuthor` becomes `book_author`. -/
  | underscored
deriving DecidableEq, Repr

namespace Naming

/-- The column name of a property. -/
def columnName : Naming → String → String
  | raw, name => name
  | underscored, name => Text.snakeCase name

/-- The table name of an entity. -/
def entityTable : Naming → String → String
  | raw, name => Text.lower name
  | underscored, name => Text.snakeCase name

/-- The column name of a property that refers to another entity. -/
def referenceColumn (naming : Naming) (property : String) : String :=
  naming.columnName (property ++ "_id")

/-- The column of a join table that refers to an entity. -/
def foreignKeyColumn (naming : Naming) (entity : String) : String :=
  naming.columnName (Text.decapitalize entity ++ "_id")

/-- The join table of an association. -/
def joinTable (naming : Naming) (owner association : String) : String :=
  naming.columnName (Text.decapitalize owner ++ "_" ++ association)

end Naming

/-- An identifier between backticks. -/
def quoteIdentifier (identifier : String) : String := "\x60" ++ identifier ++ "\x60"

end EntitySql
