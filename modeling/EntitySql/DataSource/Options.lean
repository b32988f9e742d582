import EntitySql.Error

/-! # Options of data sources

Settings that come from the environment, each with a default. -/

namespace EntitySql

/-- What to do with the tables of entities when a data source starts. -/
inductive SchemaMode where
  | none
  | create
  | createDrop
deriving DecidableEq, Repr

/-- The mode of a name, whatever the case of its ASCII letters. -/
def SchemaMode.parse (text : String) : Outcome SchemaMode :=
  let folded := String.ofList (text.toList.map Char.toLower)
  if folded = "none" then .ok .none
  else if folded = "create" then .ok .create
  else if folded = "create-drop" ∨ folded = "create_drop" then .ok .createDrop
  else .error (.configuration (.unknownSchemaMode text))

structure DataSourceOptions where
  name : String := "default"
  client : String := "default"
  /-- The cache that tables are created in. -/
  cache : String := "default"
  /-- The schema mode as it was given. -/
  schemaGenerate : String := "none"
deriving DecidableEq, Repr

/-- The options that environment variables give. -/
def DataSourceOptions.load (environment : String → Option String) : DataSourceOptions where
  name := (environment "DATA_SOURCE_NAME").getD "default"
  client := (environment "DATA_CLIENT").getD "default"
  cache := (environment "DATA_CACHE").getD "default"
  schemaGenerate := (environment "DATA_SCHEMA_GENERATE").getD "none"

/-- Where the database is that caches keep their data in. -/
structure ConnectOptions where
  database : String := "file::memory:?cache=shared"
deriving DecidableEq, Repr

def ConnectOptions.load (environment : String → Option String) : ConnectOptions where
  database := (environment "SQL_DATABASE").getD "file::memory:?cache=shared"

end EntitySql
