import EntitySql.Repository.Plan
import EntitySql.Repository.Session
import EntitySql.Result.Decoder

/-! # Operations of repositories

Queries are prepared in full, and writes are planned in full, before anything is asked of a cache. -/

namespace EntitySql

/-- The surroundings of all operations. -/
structure Operations (n : Nat) extends BindContext n where
  provider : CacheProvider

namespace Operations
variable {n : Nat} (ops : Operations n)

/-- The cache that a query runs in. -/
def cacheOf (r : Repository) (q : PreparedQuery n) : String := q.cache.getD r.cache

/-- Prepares a query and runs it. -/
def runQuery {α : Type} (r : Repository) (q : PreparedQuery n) (args : List Value)
    (readRows : ResultSet → SessionM α) : SessionM α := do
  let statement ← q.prepare ops.schema args ops.now
  let cache := cacheOf r q
  SessionM.openCache ops.provider cache
  SessionM.query ops.provider cache statement readRows

/-- Reads and decodes all rows up to the first that fails. -/
def decodeRows (decoder : RowDecoder) (shape : Shape) :
    List (Except String (List Value)) → SessionM (List Json)
  | [] => return []
  | row :: rows => do
    let cells ← SessionM.readRow row
    let document ← decoder.decode ops.codec shape cells
    return document :: (← decodeRows decoder shape rows)

/-- Every result of a query. -/
def findAll (r : Repository) (q : PreparedQuery n) (args : List Value) (shape : Shape) :
    SessionM (List Json) := do
  checkProjection q.root q.result
  ops.runQuery r q args fun answer => do
    let decoder ← RowDecoder.make q.root q.result answer.columns
    ops.decodeRows decoder shape answer.rows

/-- The first result of a query, if there is one; no other row is read. -/
def findOne (r : Repository) (q : PreparedQuery n) (args : List Value) (shape : Shape) :
    SessionM (Option Json) := do
  checkProjection q.root q.result
  ops.runQuery r q args fun answer => do
    let decoder ← RowDecoder.make q.root q.result answer.columns
    return (← ops.decodeRows decoder shape (answer.rows.take 1)).head?

/-- Whether a query has a result. At most one row is read, and it is not decoded. -/
def hasResult (r : Repository) (q : PreparedQuery n) (args : List Value) : SessionM Bool :=
  ops.runQuery r q args fun answer => do
    match answer.rows with
    | [] => return false
    | row :: _ =>
      let _ ← SessionM.readRow row
      return true

/-- Runs a writing query and returns the number of rows it affected. -/
def executeUpdate (r : Repository) (q : PreparedQuery n) (args : List Value) : SessionM Nat := do
  let statement ← q.prepare ops.schema args ops.now
  let cache := cacheOf r q
  SessionM.openCache ops.provider cache
  SessionM.execute ops.provider cache statement

/-- The fields of an instance. -/
def beanOf (e : Entity n) (document : Json) : Outcome Bean :=
  match document with
  | .object fields => .ok fields
  | found => .error (.conversion (.notABean e.name found))

/-- Makes a plan for a bean, and returns it with the bean as planning left it. -/
def planned (bean : Bean) (work : BindContext.PlanM Unit) : SessionM (List Statement × Bean) :=
  fun state =>
    let (result, inner) :=
      work.run { bean := bean, drawn := state.drawn, outer := { stored := state.stored } }
    (result.map fun _ => (inner.outer.plan, inner.bean),
      { state with drawn := inner.drawn, stored := inner.outer.stored })

/-- Runs the statements of a plan in order, up to the first that fails. -/
def runPlan (cache : String) (plan : List Statement) : SessionM Unit := do
  SessionM.openCache ops.provider cache
  plan.forM fun statement => discard (SessionM.execute ops.provider cache statement)

/-- Inserts an instance with all that it cascades to, and returns it with its generated values. -/
def persist (r : Repository) (e : Entity n) (document : Json) : SessionM Json := do
  let bean ← beanOf e document
  let (plan, bean) ← planned bean (ops.toBindContext.planInsert r e)
  ops.runPlan r.cache plan
  return .object bean

/-- Updates an instance, which is found by its identity, and returns it with its new times. -/
def update (r : Repository) (e : Entity n) (document : Json) : SessionM Json := do
  let (template, stored) ← ops.schema.storedUpdate r e (← get).stored
  modify fun state => { state with stored := stored }
  let bean ← beanOf e document
  let (plan, bean) ← planned bean (ops.toBindContext.planUpdate r e template)
  ops.runPlan r.cache plan
  return .object bean

/-- Inserts instances one after the other, up to the first that fails. -/
def persistAll (r : Repository) (e : Entity n) (instances : List Json) : SessionM (List Json) :=
  instances.mapM (ops.persist r e)

/-- Updates instances one after the other, up to the first that fails. -/
def updateAll (r : Repository) (e : Entity n) (instances : List Json) : SessionM (List Json) :=
  instances.mapM (ops.update r e)

/-- Finding by identity is not offered. -/
def findById (e : Entity n) (_id : Value) : SessionM (Option Json) :=
  throw (.unsupported (.findById e.name))

/-- Counting without a query is not offered. -/
def count (e : Entity n) : SessionM Nat := throw (.unsupported (.count e.name))

/-- Deleting many instances at once is not offered. -/
def deleteAll (e : Entity n) (_instances : List Json) : SessionM Nat :=
  throw (.unsupported (.deleteAll e.name))

end Operations

end EntitySql
