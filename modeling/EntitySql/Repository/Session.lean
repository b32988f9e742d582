import EntitySql.Error
import EntitySql.Repository.Basic
import EntitySql.Repository.Cache

/-! # Sessions

What lasts from call to call: the statements that are kept, the number of identifiers drawn, and all
that was asked of caches. Each question is noted before it is put. -/

namespace EntitySql

structure SessionState where
  stored : StoredStatements := []
  drawn : Nat := 0
  history : List CacheEvent := []

/-- A call of a session. What it did before it failed stays done. -/
abbrev SessionM := ExceptT Error (StateM SessionState)

namespace SessionM
variable {α : Type}

def note (event : CacheEvent) : SessionM Unit :=
  modify fun state => { state with history := state.history ++ [event] }

/-- Notes a question and puts it, given all that was asked before. -/
def put (event : CacheEvent) (question : List CacheEvent → Except String α) : SessionM α := do
  let history := (← get).history
  note event
  match question history with
  | .ok answer => return answer
  | .error text => throw (.execution text)

def openCache (provider : CacheProvider) (cache : String) : SessionM Unit :=
  put (.asked cache) fun history => provider.openCache history cache

def execute (provider : CacheProvider) (cache : String) (statement : Statement) : SessionM Nat :=
  put (.executed statement) fun history => provider.execute history cache statement

/-- Runs a query, reads its answer by a cursor, and releases the cursor even if reading fails. -/
def query (provider : CacheProvider) (cache : String) (statement : Statement)
    (readRows : ResultSet → SessionM α) : SessionM α := do
  let answer ← put (.queried statement) fun history => provider.query history cache statement
  note .cursorOpened
  fun state =>
    let (result, state) := (readRows answer).run state
    (result, { state with history := state.history ++ [.cursorReleased] })

/-- Reads a row by the cursor. -/
def readRow (row : Except String (List Value)) : SessionM (List Value) :=
  put .rowRead fun _ => row

end SessionM

end EntitySql
