import EntitySql.Query.Condition

/-! # Criteria

Predicates over property paths, which compare with query parameters and hold no values. Compiling a
criterion resolves its paths and gives each parameter a slot of the binding table, in the order of
the text. -/

namespace EntitySql

inductive Criterion where
  | compare (operator : Comparison) (path : String) (parameter : Binding)
  /-- One of the elements of a list. -/
  | isIn (path : String) (parameter : Binding)
  | isNull (path : String)
  | isNotNull (path : String)
  | and (criteria : List Criterion)
  | or (criteria : List Criterion)
  | not (criterion : Criterion)
deriving Repr

/-- A row of the binding table. -/
structure Slot where
  binding : Binding
  type : DataType
deriving DecidableEq, Repr

namespace Criterion

mutual

/-- The condition of a criterion, with the binding table grown by its slots. -/
def compile (resolve : String → Outcome ResolvedPath) :
    Criterion → List Slot → Outcome (Condition × List Slot)
  | compare operator path parameter, slots => do
    let resolved ← resolve path
    return (.comparison operator resolved.column, slots ++ [⟨parameter, resolved.type⟩])
  | isIn path parameter, slots => do
    let resolved ← resolve path
    return (.inList slots.length resolved.column, slots ++ [⟨parameter, resolved.type⟩])
  | isNull path, slots => do return (.isNull (← resolve path).column, slots)
  | isNotNull path, slots => do return (.isNotNull (← resolve path).column, slots)
  | and criteria, slots => do
    let (conditions, slots) ← compileAll resolve criteria slots
    return (.chain .and .always conditions, slots)
  | or criteria, slots => do
    let (conditions, slots) ← compileAll resolve criteria slots
    return (.chain .or .never conditions, slots)
  | not criterion, slots => do
    let (condition, slots) ← compile resolve criterion slots
    return (.not condition, slots)

def compileAll (resolve : String → Outcome ResolvedPath) :
    List Criterion → List Slot → Outcome (List Condition × List Slot)
  | [], slots => return ([], slots)
  | criterion :: criteria, slots => do
    let (condition, slots) ← compile resolve criterion slots
    let (conditions, slots) ← compileAll resolve criteria slots
    return (condition :: conditions, slots)

end

end Criterion

/-- The condition of a query, all of whose criteria have to hold; none without criteria. -/
def whereCondition (resolve : String → Outcome ResolvedPath) (criteria : List Criterion) :
    Outcome (Option Condition × List Slot) := do
  let (conditions, slots) ← Criterion.compileAll resolve criteria []
  return (if conditions.isEmpty then none else some (.chain .and .always conditions), slots)

end EntitySql
