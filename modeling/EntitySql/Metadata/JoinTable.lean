import EntitySql.Metadata.Entity

/-! # Join tables

The table and the two columns that link an owner to the target of an association. The definition of
the table, the rows written to it and the queries that join it all take their names from here. -/

namespace EntitySql.Schema
variable {n : Nat}

/-- The name of an association's join table, without quotes. -/
def joinTableName (owner : Entity n) (p : Property n) (a : Association n) : String :=
  (a.joinTable.bind (·.name)).getD (owner.naming.joinTable owner.name p.name)

/-- The identity of an entity that a join table refers to. -/
def linkedIdentity (e : Entity n) : Outcome (Property n) :=
  match e.identity with
  | some identity => .ok identity
  | none => .error (.build (.linkWithoutIdentity e.name))

/-- The columns of an association's join table, without quotes: the owner's and the target's. -/
def joinTableColumns (s : Schema n) (owner : Entity n) (p : Property n) (a : Association n) :
    Outcome (String × String) := do
  let _ ← linkedIdentity owner
  let _ ← linkedIdentity (s.target a)
  match (a.joinTable.map (·.columns)).getD [] with
  | [] =>
    return (owner.naming.foreignKeyColumn owner.name,
      owner.naming.foreignKeyColumn (s.target a).name)
  | [ownerColumn, targetColumn] => return (ownerColumn, targetColumn)
  | _ => .error (.build (.joinColumnCount p.name owner.name))

end EntitySql.Schema
