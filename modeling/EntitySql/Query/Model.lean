import EntitySql.Query.Criterion
import EntitySql.Query.Sort

/-! # Query models

Declarations of queries on one root entity: what to return, which associations to join, which rows to
take and in which order. -/

namespace EntitySql

/-- How an association is joined. The fetching kinds also return the columns of the joined entity. -/
inductive JoinKind where
  | inner
  | left
  | right
  | outer
  | fetch
  | leftFetch
  | rightFetch
deriving DecidableEq, Repr

namespace JoinKind

/-- The keyword with blanks around it. -/
def keyword : JoinKind → String
  | left | leftFetch => " LEFT JOIN "
  | right | rightFetch => " RIGHT JOIN "
  | outer => " FULL OUTER JOIN "
  | inner | fetch => " INNER JOIN "

def isFetch : JoinKind → Bool
  | fetch | leftFetch | rightFetch => true
  | _ => false

end JoinKind

/-- The alias that follows from a path: its parts in snake case, with underscores between and one at
the end. -/
def pathAlias (path : String) : String :=
  Text.snakeCase (String.ofList (path.toList.map fun c => if c = '.' then '_' else c)) ++ "_"

/-- An association path to join, with dots between its parts. -/
structure JoinPath where
  path : String
  kind : JoinKind := .inner
  /-- The alias of the last part's table, where it does not follow from the path. -/
  explicitAlias : Option String := none
deriving DecidableEq, Repr

def JoinPath.tableAlias (j : JoinPath) : String := j.explicitAlias.getD (pathAlias j.path)

/-- What a query returns. -/
inductive Projection where
  /-- The columns of the root entity and of all fetched associations. -/
  | all
  /-- The number of rows. -/
  | count
  | paths (paths : List String)
deriving DecidableEq, Repr

structure QueryModel (n : Nat) where
  root : Entity n
  projection : Projection := .all
  /-- All of these have to hold. -/
  criteria : List Criterion := []
  joins : List JoinPath := []
  sort : List Order := []
deriving Repr

namespace QueryModel
variable {n : Nat}

/-- The alias of the first join that declares exactly this path. -/
def declaredAlias? (m : QueryModel n) (path : String) : Option String :=
  (m.joins.find? (·.path = path)).map (·.tableAlias)

end QueryModel

end EntitySql
