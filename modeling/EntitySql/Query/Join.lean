import EntitySql.Metadata.JoinTable
import EntitySql.Query.Model
import EntitySql.Text.Search

/-! # Joins

The JOIN clauses of a query. A join follows its path part by part from the root; a part that was
joined before keeps its alias, and no clause is written twice. -/

namespace EntitySql

/-- `<keyword><table> <alias> ON <onAlias>.<onColumn>=<alias>.<column>` -/
structure JoinClause where
  kind : JoinKind
  table : String
  tableAlias : String
  onAlias : String
  onColumn : String
  column : String
deriving DecidableEq, Repr

def JoinClause.text (c : JoinClause) : String :=
  c.kind.keyword ++ c.table ++ " " ++ c.tableAlias ++ " ON " ++ c.onAlias ++ "." ++ c.onColumn ++ "="
    ++ c.tableAlias ++ "." ++ c.column

/-- A part of the text of all joins. -/
inductive JoinPiece where
  | clause (c : JoinClause)
  | blank
deriving DecidableEq, Repr

def JoinPiece.text : JoinPiece → String
  | clause c => c.text
  | blank => " "

/-- A table that a path leads to. -/
structure JoinedTable (n : Nat) where
  path : String
  tableAlias : String
  entity : Entity n

/-- The joins written so far. -/
structure Joins (n : Nat) where
  pieces : List JoinPiece := []
  /-- The alias of each association joined so far, by the alias of its owner and its name. -/
  applied : List ((String × String) × String) := []
  /-- The tables that paths lead to, the latest first. -/
  tables : List (JoinedTable n) := []

/-- The point that a path has reached. -/
structure JoinPoint (n : Nat) where
  tableAlias : String
  entity : Entity n
  /-- The parts of the path up to here, none at the root. -/
  parts : List String

namespace Joins
variable {n : Nat}

def text (j : Joins n) : String := String.join (j.pieces.map (·.text))

/-- Writes a clause, unless the text written so far holds it. -/
def push (j : Joins n) (c : JoinClause) : Joins n :=
  if Text.contains c.text.toList j.text.toList then j
  else { j with pieces := j.pieces ++ [.clause c] }

def pushBlank (j : Joins n) : Joins n := { j with pieces := j.pieces ++ [.blank] }

/-- The table that was joined last under a path. -/
def table? (j : Joins n) (path : String) : Option (JoinedTable n) := j.tables.find? (·.path = path)

end Joins

namespace Schema
variable {n : Nat}

/-- The association of that name of an entity on a join path. -/
def joinAssociation (owner : Entity n) (path part : String) :
    Outcome (Property n × Association n) :=
  match owner.property? part with
  | none => .error (.build (.unknownJoinProperty path owner.name part))
  | some p =>
    match p.association?.filter (!·.isEmbedded) with
    | none => .error (.build (.notAnAssociation path part owner.name))
    | some a => .ok (p, a)

/-- Writes the clauses that join the target of an association under an alias. -/
def writeJoin (s : Schema n) (kind : JoinKind) (point : JoinPoint n) (p : Property n)
    (a : Association n) (tableAlias : String) (j : Joins n) : Outcome (Joins n) := do
  let owner := point.entity
  let target := s.target a
  let clause (table tableAlias onAlias onColumn column : String) : JoinClause :=
    ⟨kind, table, tableAlias, onAlias, owner.quote onColumn, owner.quote column⟩
  let identity ← match target.identity with
    | some identity => .ok identity
    | none => .error (.build (.joinedWithoutIdentity target.name))
  if a.isForeignKey then
    let ownerIdentity ← match owner.identity with
      | some identity => .ok identity
      | none => .error (.build (.joinOwnerWithoutIdentity owner.name))
    match a.mappedBy with
    | some mappedBy =>
      let mapped ← match target.property? mappedBy with
        | some mapped => .ok mapped
        | none => .error (.build (.unknownMappedProperty mappedBy target.name))
      return j.push <| clause target.tableName tableAlias point.tableAlias
        (owner.columnName ownerIdentity) (target.columnName mapped)
    | none =>
      let table := joinTableName owner p a
      let (ownerColumn, targetColumn) ← s.joinTableColumns owner p a
      let linkAlias := tableAlias ++ table ++ "_"
      let j := j.push <| clause (owner.quote table) linkAlias point.tableAlias
        (owner.columnName ownerIdentity) ownerColumn
      return j.pushBlank.push <| clause target.tableName tableAlias linkAlias targetColumn
        (target.columnName identity)
  else
    return j.push <| clause target.tableName tableAlias point.tableAlias (owner.columnName p)
      (target.columnName identity)

/-- Follows the remaining parts of a join path. -/
def joinParts (s : Schema n) (m : QueryModel n) (join : JoinPath) :
    List String → JoinPoint n → Joins n → Outcome (Joins n)
  | [], _, j => .ok j
  | part :: parts, point, j => do
    let reached := point.parts ++ [part]
    let path := ".".intercalate reached
    let (p, a) ← joinAssociation point.entity join.path part
    let (tableAlias, j) ← match j.applied.lookup (point.tableAlias, part) with
      | some tableAlias => pure (tableAlias, j)
      | none => do
        let tableAlias := if parts.isEmpty then join.tableAlias
          else (m.declaredAlias? path).getD (pathAlias path)
        let j ← s.writeJoin join.kind point p a tableAlias j
        pure (tableAlias, { j with applied := ((point.tableAlias, part), tableAlias) :: j.applied })
    let target := s.target a
    s.joinParts m join parts ⟨tableAlias, target, reached⟩
      { j with tables := ⟨path, tableAlias, target⟩ :: j.tables }

/-- Writes one join. -/
def join (s : Schema n) (m : QueryModel n) (join : JoinPath) (j : Joins n) : Outcome (Joins n) :=
  if join.path = "" then .error (.build .emptyJoinPath)
  else
    s.joinParts m join ((Text.pieces '.' join.path.toList).map String.ofList)
      ⟨m.root.rootAlias, m.root, []⟩ j

/-- All joins of a model. -/
def joinAll (s : Schema n) (m : QueryModel n) : Outcome (Joins n) :=
  m.joins.foldlM (fun j path => s.join m path j) {}

end Schema

end EntitySql
