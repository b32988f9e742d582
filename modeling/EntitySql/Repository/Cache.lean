import EntitySql.Statement.Template

/-! # Caches

Named stores that run SQL, seen from outside: every question to a cache is an event, and what it
answers may depend on all events before. The rows of a result are read one by one by a cursor, which
is released when it is no longer needed. -/

namespace EntitySql

inductive CacheEvent where
  /-- The cache of a name is asked for. -/
  | asked (cache : String)
  | queried (statement : Statement)
  | executed (statement : Statement)
  /-- A query is answered by a cursor. -/
  | cursorOpened
  | rowRead
  | cursorReleased
deriving Repr

/-- The answer to a query. A row may turn out to be unreadable. -/
structure ResultSet where
  columns : List String
  rows : List (Except String (List Value))

/-- A source of caches. Failures are told in its own words. -/
structure CacheProvider where
  openCache : (history : List CacheEvent) → (cache : String) → Except String Unit
  query : (history : List CacheEvent) → (cache : String) → Statement → Except String ResultSet
  /-- Runs a statement and returns the number of rows it affected. -/
  execute : (history : List CacheEvent) → (cache : String) → Statement → Except String Nat

end EntitySql
