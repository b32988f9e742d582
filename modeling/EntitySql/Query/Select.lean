import EntitySql.Query.Join

/-! # SELECT and DELETE statements

A query model compiled into a statement as data, and the text of that. -/

namespace EntitySql

/-- What a SELECT returns in one place of its list. -/
inductive SelectItem where
  /-- All columns, of an entity that declares none. -/
  | star
  | count
  | column (c : QualifiedColumn)
  /-- A column of a fetched table under a name of its own. -/
  | fetched (tableAlias column name : String)
deriving DecidableEq, Repr

def SelectItem.text : SelectItem → String
  | star => "*"
  | count => "COUNT(*)"
  | column c => c.text
  | fetched owner field name => owner ++ "." ++ field ++ " AS " ++ name

structure SelectStatement where
  items : List SelectItem
  table : String
  rootAlias : String
  joins : List JoinPiece
  condition : Option Condition
  order : List OrderItem
deriving DecidableEq, Repr

/-- The WHERE clause with the blank in front of it. -/
def whereText : Option Condition → String
  | some condition => " WHERE (" ++ condition.text ++ ")"
  | none => ""

def SelectStatement.text (s : SelectStatement) : String :=
  "SELECT " ++ ",".intercalate (s.items.map (·.text)) ++ " FROM " ++ s.table ++ " " ++ s.rootAlias
    ++ String.join (s.joins.map (·.text)) ++ whereText s.condition
    ++ (if s.order.isEmpty then "" else " ORDER BY " ++ ",".intercalate (s.order.map (·.text)))

structure DeleteStatement where
  table : String
  condition : Option Condition
deriving DecidableEq, Repr

def DeleteStatement.text (s : DeleteStatement) : String :=
  "DELETE FROM " ++ s.table ++ whereText s.condition

/-- A statement with a binding table. -/
def Template.ofSlots (text : String) (slots : List Slot) : Template :=
  { text := text, bindings := slots.map (·.binding), types := slots.map fun slot => some slot.type }

namespace Schema
variable {n : Nat}

/-- The column that a path stands for in a query: of the joined table that the path leads to before
its last dot, or else of the root entity. -/
def resolveJoined (s : Schema n) (m : QueryModel n) (j : Joins n) (path : String) :
    Outcome ResolvedPath :=
  match Text.cutLast '.' path.toList with
  | none => s.resolve m.root m.root.rootAlias path
  | some (table, property) =>
    match j.table? (String.ofList table) with
    | some joined => s.resolve joined.entity joined.tableAlias (String.ofList property)
    | none => s.resolve m.root m.root.rootAlias path

/-- Every column of an entity, those of the identity last. -/
def allItems (s : Schema n) (e : Entity n) (qualifier : String) : List SelectItem :=
  let columns := s.columns e
  if columns.isEmpty then [.star] else columns.map fun c => .column ⟨qualifier, c.text⟩

/-- The columns of `allItems` with commas between. -/
def selectAll (s : Schema n) (e : Entity n) (qualifier : String) : String :=
  ",".intercalate ((s.allItems e qualifier).map (·.text))

/-- The columns of a fetched association: its plain identity first, then all other properties. Their
names begin with the alias of the path. -/
def fetchedItems (s : Schema n) (j : Joins n) (join : JoinPath) : Outcome (List SelectItem) :=
  match j.table? join.path with
  | none => .ok []
  | some joined => do
    let e := joined.entity
    let named (column name : String) : SelectItem :=
      .fetched joined.tableAlias column (pathAlias join.path ++ name)
    let others := ((s.columns e).filter fun c => !c.identity).map fun c =>
      named c.text (String.ofList (Text.trim '\x60' c.text.toList))
    let identity ← e.requiredIdentity
    let first := if identity.embedded?.isSome then []
      else [named (e.quote (e.columnName identity)) (e.columnName identity)]
    return first ++ others

/-- What the model's projection returns. -/
def selectItems (s : Schema n) (m : QueryModel n) (j : Joins n) : Outcome (List SelectItem) :=
  match m.projection with
  | .all => do
    let fetched ← (m.joins.filter (·.kind.isFetch)).mapM (s.fetchedItems j)
    return s.allItems m.root m.root.rootAlias ++ fetched.flatten
  | .count => .ok [.count]
  | .paths paths => paths.mapM fun path => do
    return .column (← s.resolveJoined m j path).column

/-- The SELECT of a query model with its binding table. -/
def selectStatement (s : Schema n) (m : QueryModel n) : Outcome (SelectStatement × List Slot) := do
  let j ← s.joinAll m
  let items ← s.selectItems m j
  let (condition, slots) ← whereCondition (s.resolveJoined m j) m.criteria
  let order ← s.orderItems m.root m.root.rootAlias m.sort
  return ({ items := items, table := m.root.tableName, rootAlias := m.root.rootAlias,
            joins := j.pieces, condition := condition, order := order }, slots)

/-- Compiles a query model to a SELECT. -/
def query (s : Schema n) (m : QueryModel n) : Outcome Template := do
  let (statement, slots) ← s.selectStatement m
  return .ofSlots statement.text slots

/-- The DELETE of the rows that a query model takes, with its binding table. -/
def deleteStatement (s : Schema n) (m : QueryModel n) : Outcome (DeleteStatement × List Slot) := do
  if !m.joins.isEmpty then .error (.build (.deleteWithJoins m.root.name))
  else
    let (condition, slots) ← whereCondition (s.resolve m.root "") m.criteria
    return ({ table := m.root.tableName, condition := condition }, slots)

/-- Compiles a query model without joins to a DELETE. -/
def delete (s : Schema n) (m : QueryModel n) : Outcome Template := do
  let (statement, slots) ← s.deleteStatement m
  return .ofSlots statement.text slots

end Schema

end EntitySql
