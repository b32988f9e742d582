import EntitySql.DataSource.Options
import EntitySql.Repository.Session
import EntitySql.Statement.Table

/-! # Schema generation

Creating the tables of entities when a data source starts, and dropping them before, as its mode says.
Nothing runs unless all statements can be compiled; a statement that fails does not stop the others. -/

namespace EntitySql
variable {n : Nat}

/-- The statements that generate the tables of entities; none without a mode. -/
def Schema.generationStatements (s : Schema n) (mode : SchemaMode) (entities : List (Entity n)) :
    Outcome (List String) := do
  if mode = .none then return []
  let creates ← entities.mapM s.createStatements
  let drops := if mode = .createDrop then entities.flatMap (·.dropStatements) else []
  return drops ++ creates.flatten

/-- Runs a statement, whose failure does not count. -/
def attempt (provider : CacheProvider) (cache sql : String) : SessionM Unit :=
  tryCatch (discard (SessionM.execute provider cache ⟨sql, []⟩)) fun _ => return ()

/-- Generates the tables of entities. -/
def Schema.generate (s : Schema n) (provider : CacheProvider) (options : DataSourceOptions)
    (entities : List (Entity n)) : SessionM Unit := do
  let mode ← SchemaMode.parse options.schemaGenerate
  let statements ← s.generationStatements mode entities
  if mode = .none then return ()
  SessionM.openCache provider options.cache
  statements.forM (attempt provider options.cache)

end EntitySql
