import EntitySql.Metadata.JoinTable
import EntitySql.Statement.Template

/-! # INSERT statements -/

namespace EntitySql.Schema
variable {n : Nat}

/-- The columns that an INSERT fills: all that the database does not generate. -/
def insertedColumns (s : Schema n) (e : Entity n) : List (Column n) :=
  (s.columns e).filter fun c => !c.property.generated

/-- The INSERT of one row of the entity's table. -/
def insert (s : Schema n) (e : Entity n) : Outcome Template :=
  let columns := s.insertedColumns e
  if columns.isEmpty then .error (.build (.noInsertableColumn e.name))
  else .ok <| Template.ofColumns
    ("INSERT INTO " ++ e.tableName ++ " (" ++ ",".intercalate (columns.map (·.text)) ++ ") VALUES ("
      ++ placeholders columns.length ++ ")")
    (columns.map (·.property.type)) (columns.map (·.path))

/-- The INSERT of one row of an association's join table. -/
def joinTableInsert (s : Schema n) (e : Entity n) (p : Property n) : Outcome Template := do
  match p.association?.filter (·.isJoinTable) with
  | none => .error (.build (.notJoinTable p.name e.name))
  | some a =>
    let (ownerColumn, targetColumn) ← s.joinTableColumns e p a
    return { text := "INSERT INTO " ++ e.quote (joinTableName e p a) ++ " (" ++ e.quote ownerColumn
      ++ "," ++ e.quote targetColumn ++ ") VALUES (?, ?)" }

end EntitySql.Schema
