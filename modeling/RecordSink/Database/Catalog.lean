import RecordSink.Entries
import RecordSink.Table
/-!
The tables of a database by name, and what a statement without parameters does to them. A statement
either fails and leaves the tables alone, or yields a count and new tables.
-/
namespace RecordSink

/-- Tables by name. -/
structure Catalog where
  /-- The tables, oldest first, each name once. -/
  entries : Entries Table
  deriving DecidableEq, Repr

namespace Catalog

/-- No tables. -/
def empty : Catalog :=
  ⟨[]⟩

/-- The table with this name. -/
def get? (c : Catalog) (name : String) : Option Table :=
  c.entries.lookup name

/-- The tables with the one of this name replaced or added. -/
def set (c : Catalog) (name : String) (t : Table) : Catalog :=
  ⟨c.entries.put name t⟩

/-- The names of the tables, in ascending order. -/
def names (c : Catalog) : List String :=
  (c.entries.map Prod.fst).mergeSort fun a b => decide (a ≤ b)

/-- Setting a table is seen under its name and nowhere else. -/
theorem get?_set (c : Catalog) (name other : String) (t : Table) :
    (c.set name t).get? other = if other = name then some t else c.get? other :=
  Entries.lookup_put name other t c.entries

/-- The table with this name, which must exist. -/
def table (c : Catalog) (name : String) : Except Mismatch Table :=
  match c.get? name with
  | some t => .ok t
  | none => .error (.noTable name)

/-- A table is created, unless its name is taken. -/
def create (c : Catalog) (name : String) (ifNotExists : Bool) (columns : List Column) :
    Except Mismatch Catalog :=
  if (c.get? name).isSome then
    if ifNotExists then .ok c else .error (.tableExists name)
  else if 1 < columns.countP Column.primaryKey then .error .severalKeys
  else do return c.set name (← Table.create columns)

/-- A table gets one more column, which cannot be a key. -/
def addColumn (c : Catalog) (name : String) (column : Column) : Except Mismatch Catalog := do
  let t ← c.table name
  if column.primaryKey then throw .keyAdded
  return c.set name (← t.addColumn column)

/-- A table loses a column. -/
def dropColumn (c : Catalog) (name column : String) : Except Mismatch Catalog := do
  let t ← c.table name
  return c.set name (← t.dropColumn column)

/-- A table loses rows; the answer is their number. -/
def deleteRows (c : Catalog) (name : String) (limit : Option Nat) :
    Except Mismatch (Nat × Catalog) := do
  let t ← c.table name
  let (n, rest) := t.deleteRows limit
  return (n, c.set name rest)

/-- What a statement without parameters does: the number of rows it affected, and the tables after
it. -/
def apply (c : Catalog) : Sql.Statement → Except Cause (Nat × Catalog)
  | .createTable name ifNotExists columns =>
    (c.create name ifNotExists columns).mapError .mismatch |>.map (0, ·)
  | .addColumn name column => (c.addColumn name column).mapError .mismatch |>.map (0, ·)
  | .dropColumn name column => (c.dropColumn name column).mapError .mismatch |>.map (0, ·)
  | .delete name limit => (c.deleteRows name limit).mapError .mismatch
  | .truncate name => (c.deleteRows name none).mapError .mismatch
  | .insert .. => .error .insertWithoutParameters

end Catalog

/-- A row that waits for its commit: the table and the named values. The row itself is made against
the table as it is at the commit. -/
structure StagedRow where
  /-- The name of the table. -/
  table : String
  /-- The values by column. -/
  values : NamedValues
  deriving DecidableEq, Repr

namespace Catalog

/-- Whether a staged row is for this table and would have this key if it were made now. One that
does not fit the table now has no key. -/
def stagedHasKey (name : String) (t : Table) (key : Value) (s : StagedRow) : Bool :=
  s.table == name &&
    match t.rowOf s.values with
    | .ok row => t.rowHasKey key row
    | .error _ => false

/-- Checks that a row can be staged after those already staged: it fits its table, and its key is
neither in the table nor among the staged rows. -/
def checkStaging (c : Catalog) (staged : List StagedRow) (s : StagedRow) :
    Except Mismatch Unit := do
  let t ← c.table s.table
  let row ← t.rowOf s.values
  match t.keyOf row with
  | none => return
  | some key =>
    if t.hasKey key || staged.any (stagedHasKey s.table t key) then
      throw (.repeatedKey key s.table)

/-- The row that a staged row makes now, if its key is not in the table. -/
def rowFor (c : Catalog) (s : StagedRow) : Except Mismatch Row := do
  let t ← c.table s.table
  let row ← t.rowOf s.values
  match t.keyOf row with
  | none => return row
  | some key => if t.hasKey key then throw (.repeatedKey key s.table) else return row

/-- The tables with one more row in the table of this name. -/
def appendRow (c : Catalog) (name : String) (row : Row) : Catalog :=
  match c.get? name with
  | some t => c.set name (t.append row)
  | none => c

/-- All staged rows are added in order, or, if one of them cannot be made, none. -/
def commit (c : Catalog) (staged : List StagedRow) : Except Mismatch Catalog := do
  let rows ← staged.mapM fun s => do return (s.table, ← c.rowFor s)
  return rows.foldl (fun c (name, row) => c.appendRow name row) c

end Catalog
end RecordSink
