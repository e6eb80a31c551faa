import RecordSink.Database.Connection
import RecordSink.Store.Columns
/-!
Reconciliation: a table is brought in line with a record. A missing table is made with its key
column, a missing column is added at the end, and a column of another type is dropped and added
again, which loses its values.
-/
namespace RecordSink

/-- A change of the shape of a table. -/
inductive SchemaChange where
  /-- The table was made. -/
  | createdTable
  /-- A column was added. -/
  | addedColumn (column : String) (type : ColumnType)
  /-- A column was dropped and added again with another type. -/
  | replacedColumn (column : String) (before after : ColumnType)
  deriving DecidableEq, Repr

/-- The statement that makes a table with nothing but its key column, unless it exists. -/
def createStatement (table : String) : Sql.Statement :=
  .createTable table true [⟨keyColumn, .bigInt, true, true⟩]

namespace Dialogue

/-- Runs a statement in a context. -/
def alter (context : String) (statement : Sql.Statement) : Dialogue Unit := fun link =>
  match execute statement.text link with
  | .ok _ link => .ok () link
  | .error e link => .error (e.within context) link

/-- Makes the table unless it exists; the answer is whether it was made. -/
def ensureTable (table : String) : Dialogue Bool := do
  if ← tableExists table then return false
  alter ("create table " ++ table) (createStatement table)
  return true

/-- Adds a column. -/
def addColumn (table column : String) (type : ColumnType) : Dialogue Unit :=
  alter ("add column " ++ column) (.addColumn table (.plain column type))

/-- Brings one column in line: `live` is what the table had before any change. -/
def ensureColumn (typing : Typing) (table : String) (live : List (String × ColumnType))
    (column : String) (value : Value) : Dialogue (List SchemaChange) := do
  let wanted := typing value.kind
  match live.lookup column with
  | some current =>
    if current = wanted then return []
    alter ("drop column " ++ column) (.dropColumn table column)
    addColumn table column wanted
    return [.replacedColumn column current wanted]
  | none =>
    addColumn table column wanted
    return [.addedColumn column wanted]

/-- Brings columns in line, one after the other. -/
def ensureEach (typing : Typing) (table : String) (live : List (String × ColumnType)) :
    NamedValues → Dialogue (List SchemaChange)
  | [] => return []
  | (column, value) :: rest => do
    let first ← ensureColumn typing table live column value
    return first ++ (← ensureEach typing table live rest)

end Dialogue

namespace Action

/-- Makes the table unless it exists; the answer is whether it was made. -/
def ensureTable (table : String) : Action Bool :=
  onConnection (Dialogue.ensureTable table)

/-- Brings the columns of a table in line with a record. -/
def ensureColumns (naming : Naming) (typing : Typing) (table : String) (r : Record) :
    Action (List SchemaChange) := do
  let columns ← ofExcept .precondition (r.columns naming)
  onConnection do
    let live ← Dialogue.columns table
    Dialogue.ensureEach typing table live columns

/-- Brings a table in line with a record. -/
def reconcile (naming : Naming) (typing : Typing) (table : String) (r : Record) :
    Action (List SchemaChange) := do
  let created ← ensureTable table
  let changes ← ensureColumns naming typing table r
  return if created then .createdTable :: changes else changes

end Action
end RecordSink
