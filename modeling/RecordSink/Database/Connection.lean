import RecordSink.Database.Basic
import RecordSink.Sql.Parser
/-!
Connections. A connection stages rows until they are committed together; everything else takes
effect at once. A `Dialogue` is what is said on one connection: it changes the database and the
staged rows. Staged rows are gone when their connection is closed.
-/
namespace RecordSink

/-- A database seen from one connection. -/
structure Link where
  /-- The database. -/
  database : Database
  /-- The rows that wait for the commit of this connection. -/
  staged : List StagedRow
  deriving DecidableEq, Repr

/-- Requests on one connection. -/
abbrev Dialogue := EStateM Failure Link

namespace Dialogue

/-- A request to the database that leaves the staged rows alone. -/
def ofAction (a : Action α) : Dialogue α := fun link =>
  match a link.database with
  | .ok x db => .ok x { link with database := db }
  | .error e db => .error e { link with database := db }

/-- Whether there is a table with this name. -/
def tableExists (name : String) : Dialogue Bool := ofAction do
  Action.passFaults "METADATA"
  return ((← get).tables.get? name).isSome

/-- The columns of a table, none if there is no such table. -/
def columns (name : String) : Dialogue (List (String × ColumnType)) := ofAction do
  Action.passFaults "METADATA"
  match (← get).tables.get? name with
  | some t => return t.shape
  | none => return []

/-- Runs a statement without parameters, at once. The answer is the number of rows affected. -/
def execute (sql : String) : Dialogue Nat := ofAction do
  Action.passFaults (Sql.verb sql)
  let statement ← Action.ofExcept .statement (Sql.parse sql)
  let db ← get
  let (n, tables) ← Action.ofExcept id (db.tables.apply statement)
  set { db with tables := tables }
  return n

/-- The row that a statement with parameters stages. -/
def rowToStage (sql : String) (parameters : List Value) : Except Cause StagedRow := do
  match ← (Sql.parse sql).mapError .statement with
  | .insert table columns placeholders =>
    if placeholders ≠ columns.length then
      throw (.placeholderCount columns.length placeholders)
    if parameters.length ≠ placeholders then
      throw (.parameterCount placeholders parameters.length)
    return ⟨table, columns.zip parameters⟩
  | _ => throw .parametersWithoutInsert

/-- Runs a statement with parameters: stages one row, after checking that it could be added now. -/
def executeWith (sql : String) (parameters : List Value) : Dialogue Nat := do
  ofAction (Action.passFaults (Sql.verb sql))
  let row ← ofAction (Action.ofExcept id (rowToStage sql parameters))
  let link ← get
  ofAction (Action.ofExcept .mismatch (link.database.tables.checkStaging link.staged row))
  set { link with staged := link.staged ++ [row] }
  return 1

/-- Adds all staged rows to their tables, or none of them. A fault that strikes leaves them staged;
otherwise none are staged afterwards. -/
def commit : Dialogue Unit := do
  ofAction (Action.passFaults "COMMIT")
  let link ← get
  set { link with staged := [] }
  ofAction do
    let tables ← Action.ofExcept .mismatch (link.database.tables.commit link.staged)
    modify fun db => { db with tables := tables }

/-- Forgets the staged rows. -/
def rollback : Dialogue Unit :=
  modify fun link => { link with staged := [] }

end Dialogue

/-- Takes a connection, talks on it, and closes it whatever came of that. -/
def Action.onConnection (d : Dialogue α) : Action α := do
  Action.connect
  fun db =>
    match d ⟨db, []⟩ with
    | .ok x link => .ok x link.database.release
    | .error e link => .error e link.database.release

end RecordSink
