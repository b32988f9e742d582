import EntitySql.Query.Column

/-! # Sort orders -/

namespace EntitySql

inductive Direction where
  | ascending
  | descending
deriving DecidableEq, Repr

def Direction.keyword : Direction → String
  | ascending => "ASC"
  | descending => "DESC"

/-- An order on one property path. -/
structure Order where
  path : String
  direction : Direction := .ascending
  ignoreCase : Bool := false
deriving DecidableEq, Repr

/-- An order on a column, as it stands in a statement. -/
structure OrderItem where
  column : QualifiedColumn
  direction : Direction
  ignoreCase : Bool
deriving DecidableEq, Repr

def OrderItem.text (i : OrderItem) : String :=
  (if i.ignoreCase then "LOWER(" ++ i.column.text ++ ")" else i.column.text) ++ " "
    ++ i.direction.keyword

namespace Schema
variable {n : Nat}

/-- The columns of orders on an entity; the first order is the most important. -/
def orderItems (s : Schema n) (e : Entity n) (qualifier : String) (sort : List Order) :
    Outcome (List OrderItem) :=
  sort.mapM fun order => do
    let resolved ← s.resolve e qualifier order.path
    return ⟨resolved.column, order.direction, order.ignoreCase⟩

/-- The orders with commas between. -/
def orderList (s : Schema n) (e : Entity n) (qualifier : String) (sort : List Order) :
    Outcome String := do
  return ",".intercalate ((← s.orderItems e qualifier sort).map (·.text))

/-- The ORDER BY clause with the blank in front of it. -/
def orderBy (s : Schema n) (e : Entity n) (qualifier : String) (sort : List Order) :
    Outcome String := do
  return " ORDER BY " ++ (← s.orderList e qualifier sort)

end Schema

end EntitySql
