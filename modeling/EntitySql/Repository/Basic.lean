import EntitySql.Statement.Insert
import EntitySql.Statement.Update

/-! # Repositories

What a repository declares, and the statements that are compiled for it on first use and kept. -/

namespace EntitySql

structure Repository where
  name : String
  /-- The cache of the repository's data. -/
  cache : String
  /-- Whether INSERT and UPDATE are compiled where they are not declared. -/
  generated : Bool := true
  insert : Option Template := none
  update : Option Template := none
deriving Repr

/-- The kinds of statements that are kept. -/
inductive StoredKind where
  | insert
  | update
  /-- The INSERT of a row that links the owner to a target of the property. -/
  | joinTable (property : String)
deriving DecidableEq, Repr

/-- What a statement is kept under. -/
structure StoredKey where
  repository : String
  entity : String
  kind : StoredKind
deriving DecidableEq, Repr

/-- The statements kept so far. -/
abbrev StoredStatements := List (StoredKey × Template)

namespace Schema
variable {n : Nat}

/-- Compiles a statement of an entity. -/
def compileStored (s : Schema n) (e : Entity n) : StoredKind → Outcome Template
  | .insert => s.insert e
  | .update => s.update e
  | .joinTable property =>
    match e.property? property with
    | some p => s.joinTableInsert e p
    | none => .error (.build (.unknownProperty e.name property))

/-- The statement kept under a key, compiled and kept when there is none. -/
def stored (s : Schema n) (r : Repository) (e : Entity n) (kind : StoredKind)
    (kept : StoredStatements) : Outcome (Template × StoredStatements) :=
  let key : StoredKey := ⟨r.name, e.name, kind⟩
  match kept.lookup key with
  | some template => .ok (template, kept)
  | none => do
    let template ← s.compileStored e kind
    return (template, (key, template) :: kept)

/-- The INSERT of an entity. A declared one is for the entity that a call starts from, and only a
generated repository compiles one for it. -/
def storedInsert (s : Schema n) (r : Repository) (e : Entity n) (isRoot : Bool)
    (kept : StoredStatements) : Outcome (Template × StoredStatements) :=
  match isRoot, r.insert with
  | true, some template => .ok (template, kept)
  | true, none =>
    if r.generated then s.stored r e .insert kept
    else .error (.configuration (.noInsert r.name e.name))
  | false, _ => s.stored r e .insert kept

/-- The UPDATE of an entity. -/
def storedUpdate (s : Schema n) (r : Repository) (e : Entity n) (kept : StoredStatements) :
    Outcome (Template × StoredStatements) :=
  match r.update with
  | some template => .ok (template, kept)
  | none =>
    if r.generated then s.stored r e .update kept
    else .error (.configuration (.noUpdate r.name e.name))

end Schema

end EntitySql
