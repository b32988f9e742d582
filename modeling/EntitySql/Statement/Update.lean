import EntitySql.Metadata.Entity
import EntitySql.Statement.Template

/-! # UPDATE statements -/

namespace EntitySql.Schema
variable {n : Nat}

/-- The columns that an UPDATE sets: neither the identity, nor what the database generates, nor the
time of creation. -/
def updatedColumns (s : Schema n) (e : Entity n) : List (Column n) :=
  (s.columns e).filter fun c =>
    !c.identity && !c.property.generated && c.property.autoPopulated ≠ some .created

def identityColumns (s : Schema n) (e : Entity n) : List (Column n) :=
  (s.columns e).filter (·.identity)

/-- The UPDATE of one row of the entity's table, which is found by its identity. -/
def update (s : Schema n) (e : Entity n) : Outcome Template := do
  let _ ← e.requiredIdentity
  let assigned := s.updatedColumns e
  let tested := s.identityColumns e
  if assigned.isEmpty then .error (.build (.noUpdatableColumn e.name))
  else
    let bound (columns : List (Column n)) : List String := columns.map (·.text ++ "=?")
    return Template.ofColumns
      ("UPDATE " ++ e.tableName ++ " SET " ++ ",".intercalate (bound assigned) ++ " WHERE "
        ++ " AND ".intercalate (bound tested))
      ((assigned ++ tested).map (·.property.type)) ((assigned ++ tested).map (·.path))

end EntitySql.Schema
