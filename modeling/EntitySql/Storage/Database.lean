import EntitySql.Storage.Cell

/-! # Databases

A database with at most one table, which has one column without a type. A command first maps its
arguments to cells, is then prepared, and is run last; the first of these that fails is its answer, and
a command that fails changes nothing. Only insertions and deletions count the rows they change: a
command that creates or drops the table answers with the count that the last of them left. -/

namespace EntitySql

/-- What is asked of a database. -/
inductive StorageCommand where
  | createTable
  | dropTable
  /-- Inserts the one argument as a row. -/
  | insertRow
  | deleteRows
  /-- All rows in the order of their insertion. -/
  | selectRows
  /-- All arguments as one row. -/
  | selectArguments
  /-- The one argument as a row. -/
  | selectArgument
  /-- The text of the one argument as a row. -/
  | selectText
deriving DecidableEq, Repr

inductive StorageAnswer where
  /-- How many rows the last insertion or deletion changed. -/
  | changed (rows : Nat)
  | rows (columns : List String) (rows : List (List Value))

structure Database where
  /-- The rows of the table, if it exists. -/
  table : Option (List Cell) := none
  /-- How many rows the last insertion or deletion changed, 0 before the first. -/
  changes : Nat := 0

/-- The names of the columns of arguments. -/
def argumentColumns (count : Nat) : List String := (List.range count).map fun i => s!"c{i}"

/-- Checks the number of arguments of a command that is prepared. -/
def StorageCommand.expectArguments (expected : Nat) (cells : List Cell) (cause : StorageError) :
    Except StorageError Unit :=
  if cells.length = expected then .ok () else .error cause

namespace Database
open StorageCommand (expectArguments)

/-- The table's rows, without which a command on them cannot be prepared. -/
def requiredTable (db : Database) : Except StorageError (List Cell) :=
  match db.table with
  | some rows => .ok rows
  | none => .error .notPrepared

/-- The answer of a command that leaves the database so, with its count of changed rows. -/
def leave (after : Database) : StorageAnswer × Database := (.changed after.changes, after)

/-- One row with the arguments. -/
def argumentRow (cells : List Cell) : Except StorageError StorageAnswer := do
  return .rows (argumentColumns cells.length) [← cells.mapM Cell.value]

/-- Prepares and runs a command whose arguments are mapped. -/
def runCells (db : Database) (command : StorageCommand) (cells : List Cell) :
    Except StorageError (StorageAnswer × Database) :=
  match command with
  | .createTable => do
    if db.table.isSome then throw .notPrepared
    expectArguments 0 cells .notExecuted
    return leave { db with table := some [] }
  | .dropTable => do
    let _ ← db.requiredTable
    expectArguments 0 cells .notExecuted
    return leave { db with table := none }
  | .insertRow => do
    let rows ← db.requiredTable
    expectArguments 1 cells .notExecuted
    return leave { table := some (rows ++ cells), changes := 1 }
  | .deleteRows => do
    let rows ← db.requiredTable
    expectArguments 0 cells .notExecuted
    return leave { table := some [], changes := rows.length }
  | .selectRows => do
    let rows ← db.requiredTable
    expectArguments 0 cells .notQueried
    return (.rows ["v"] (← rows.mapM fun cell => cell.value.map ([·])), db)
  | .selectArguments => do
    if cells.isEmpty then throw .notPrepared
    return (← argumentRow cells, db)
  | .selectArgument => do
    expectArguments 1 cells .notQueried
    return (← argumentRow cells, db)
  | .selectText => do
    expectArguments 1 cells .notQueried
    return (← argumentRow (cells.map Cell.toText), db)

/-- Runs a command. -/
def run (db : Database) (command : StorageCommand) (args : List Value) :
    Except StorageError StorageAnswer × Database :=
  match args.mapM Cell.ofValue >>= db.runCells command with
  | .ok (answer, after) => (.ok answer, after)
  | .error cause => (.error cause, db)

end Database

end EntitySql
