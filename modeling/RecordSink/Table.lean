import RecordSink.Distinct
import RecordSink.Failure
import RecordSink.Record
/-!
Tables: columns, and rows with one cell for each column. A row is made from named values, which are
checked against the columns; rows stay in the order in which they were added.
-/
namespace RecordSink

/-- The cells of a row, in the order of the columns. An empty cell holds nothing. -/
abbrev Row := List (Option Value)

/-- A table. -/
structure Table where
  /-- The columns, first to last. -/
  columns : List Column
  /-- The rows, oldest first. -/
  rows : List Row
  deriving DecidableEq, Repr

namespace Table

/-- An empty table with these columns, whose names must be distinct. -/
def create (columns : List Column) : Except Mismatch Table :=
  match firstRepeated [] (columns.map Column.name) with
  | some name => .error (.repeatedColumn name)
  | none => .ok ⟨columns, []⟩

/-- The column with this name. -/
def column? (t : Table) (name : String) : Option Column :=
  t.columns.find? fun c => c.name == name

/-- The position of the column with this name. -/
def position (t : Table) (name : String) : Nat :=
  t.columns.findIdx fun c => c.name == name

/-- The table with one more column at the end, empty in every row. -/
def addColumn (t : Table) (c : Column) : Except Mismatch Table :=
  if (t.column? c.name).isSome then .error (.columnExists c.name)
  else if c.notNull && !t.rows.isEmpty then .error (.requiredAdded c.name)
  else .ok ⟨t.columns ++ [c], t.rows.map fun row => row ++ [none]⟩

/-- The table without the column of this name, which must not be the key. -/
def dropColumn (t : Table) (name : String) : Except Mismatch Table :=
  match t.column? name with
  | none => .error (.noColumn name)
  | some c =>
    if c.primaryKey then .error (.keyDropped name)
    else
      let i := t.position name
      .ok ⟨t.columns.eraseIdx i, t.rows.map fun row => row.eraseIdx i⟩

/-- Checks that each value has a column that takes it, and that no column gets two. -/
def checkValues (t : Table) (seen : List String) : NamedValues → Except Mismatch Unit
  | [] => .ok ()
  | (name, value) :: rest =>
    match t.column? name with
    | none => .error (.noColumn name)
    | some c =>
      if name ∈ seen then .error (.columnTwice name)
      else if c.type.accepts value then t.checkValues (name :: seen) rest
      else .error (.wrongKind name c.type value.kind)

/-- The cell of a column. -/
def cellOf (values : NamedValues) (c : Column) : Except Mismatch (Option Value) :=
  match values.lookup c.name with
  | some v => .ok (some v)
  | none => if c.required then .error (.emptyCell c.name) else .ok none

/-- The row that these values make: one cell for each column, empty where no value is named. -/
def rowOf (t : Table) (values : NamedValues) : Except Mismatch Row := do
  t.checkValues [] values
  t.columns.mapM (cellOf values)

/-- The key of a row, if the table has a key column. -/
def keyOf (t : Table) (row : Row) : Option Value :=
  match (t.columns.zip row).find? fun (c, _) => c.primaryKey with
  | some (_, cell) => cell
  | none => none

/-- Whether the row has this key. -/
def rowHasKey (t : Table) (key : Value) (row : Row) : Bool :=
  match t.keyOf row with
  | some k => k.equals key
  | none => false

/-- Whether some row has this key. -/
def hasKey (t : Table) (key : Value) : Bool :=
  t.rows.any (t.rowHasKey key)

/-- The table with one more row at the end. -/
def append (t : Table) (row : Row) : Table :=
  { t with rows := t.rows ++ [row] }

/-- The table without its first rows, at most `limit` of them if there is a limit. -/
def deleteRows (t : Table) (limit : Option Nat) : Nat × Table :=
  let n := match limit with
    | some limit => min limit t.rows.length
    | none => t.rows.length
  (n, { t with rows := t.rows.drop n })

/-- The names and types of the columns. -/
def shape (t : Table) : List (String × ColumnType) :=
  t.columns.map fun c => (c.name, c.type)

/-- What the row at an index holds in the column of this name: nothing if there is no such row or
column, and otherwise the cell. -/
def cell? (t : Table) (row : Nat) (name : String) : Option (Option Value) := do
  let _ ← t.column? name
  let cells ← t.rows[row]?
  cells[t.position name]?

end Table
end RecordSink
