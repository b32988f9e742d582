import EntitySql.Query.Page
import EntitySql.Query.Select
import EntitySql.Statement.InExpansion
import EntitySql.Value.Json

/-! # Prepared queries

A compiled query with all that is needed to run it, and the statement that it becomes with the
arguments of a call: tokens expanded, sort and page appended, lists flattened. -/

namespace EntitySql

/-- What the rows of a query are read as. -/
inductive ResultKind where
  /-- The first column of each row. -/
  | scalar
  /-- The named properties of the root entity. -/
  | dto (fields : List String)
  /-- A graph of entities, which is not offered. -/
  | entity
deriving DecidableEq, Repr

def ResultKind.describe : ResultKind → String
  | scalar => "Scalar"
  | dto fields => "Dto([" ++ ", ".intercalate (fields.map Text.quoted) ++ "])"
  | entity => "Entity"

structure PreparedQuery (n : Nat) where
  root : Entity n
  compiled : Template
  result : ResultKind := .scalar
  /-- The cache to run in, where it is not that of the repository. -/
  cache : Option String := none
  page : PageRequest := {}
  /-- Whether the statement writes; writes are never paged. -/
  mutating : Bool := false
  /-- Whether at most one row is read. -/
  single : Bool := false
  /-- Whether the text ends with an ORDER BY clause, which further orders extend. -/
  sorted : Bool := false
deriving Repr

namespace Binding

/-- The value of a binding, given the arguments of a call and the current time. -/
def resolve (args : List Value) (now : Timestamp) : Binding → Outcome Value
  | argument index => argumentAt index
  | property index path => do
    match ← argumentAt index with
    | .null => return .null
    | .object fields => return ((Value.object fields).get? path).getD .null
    | found => .error (.configuration (.notAnObject index path found))
  | lastUpdated => .ok (.timestamp now)
where
  argumentAt (index : Nat) : Outcome Value :=
    match args[index]? with
    | some value => .ok value
    | none => .error (.configuration (.missingArgument index args.length))

end Binding

namespace PreparedQuery
variable {n : Nat}

def ofModel (s : Schema n) (m : QueryModel n) : Outcome (PreparedQuery n) := do
  return { root := m.root, compiled := ← s.query m, sorted := !m.sort.isEmpty }

/-- A query on given text, one binding for each placeholder. -/
def ofText (root : Entity n) (sql : String) (bindings : List Binding) : PreparedQuery n :=
  { root := root
    compiled := { text := sql, bindings := bindings, types := bindings.map fun _ => none } }

def isDto (q : PreparedQuery n) : Bool :=
  match q.result with
  | .dto _ => true
  | _ => false

/-- The page that is asked for: one row, when a single row is read from an offset on. -/
def effectivePage (q : PreparedQuery n) : PageRequest :=
  if q.single && q.page.offset != 0 then { q.page with size := 1 } else q.page

/-- The orders and the page that follow the text. -/
def pageText (s : Schema n) (q : PreparedQuery n) : Outcome String :=
  if q.mutating || (!q.page.isPaged && !q.page.isSorted) then .ok ""
  else do
    let sort ←
      if !q.page.isSorted then .ok ""
      else if q.sorted then
        (s.orderList q.root q.root.rootAlias q.page.sort).map ("," ++ ·)
      else s.orderBy q.root q.root.rootAlias q.page.sort
    return sort ++ q.effectivePage.clause

/-- The statement that runs the query with these arguments at this time. -/
def prepare (s : Schema n) (q : PreparedQuery n) (args : List Value) (now : Timestamp) :
    Outcome Statement := do
  let values ← q.compiled.bindings.mapM (Binding.resolve args now)
  let expansion ←
    expandTokens q.compiled.text (values.map (·.inSize)) q.compiled.text.toList []
  let suffix ← q.pageText s
  return { sql := String.ofList expansion.text ++ suffix
           args := boundValues values expansion.ignored }

end PreparedQuery

end EntitySql
