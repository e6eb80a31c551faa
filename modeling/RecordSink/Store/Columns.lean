import RecordSink.Table
/-!
The columns of a record: the name that each field gets in a table. Two fields of one record never
share a column, and none takes the key column; both are checked without regard to letter case, since
many databases fold names.
-/
namespace RecordSink

/-- The name of the key column of every table that a store makes. -/
def keyColumn : String :=
  "TIMESTAMP"

/-- The columns of fields, with the values that go into them, if they collide neither with the key
column, nor with each other, nor with the columns already taken. -/
def columnsOf (naming : Naming) (taken : List String) :
    NamedValues → Except Precondition NamedValues
  | [] => .ok []
  | (field, value) :: rest =>
    let column := naming field
    if Text.sameFolded column keyColumn then .error (.fieldNamedAsKey field)
    else if taken.any fun other => Text.sameFolded other column then
      .error (.sharedColumn field column)
    else do return (column, value) :: (← columnsOf naming (column :: taken) rest)

/-- The columns of a record, in the order of its fields. -/
def Record.columns (r : Record) (naming : Naming) : Except Precondition NamedValues :=
  columnsOf naming [] r.fields

/-- The timestamps of a table, in the order of its rows. -/
def Table.timestamps (t : Table) : List Int64 :=
  t.rows.filterMap fun (row : Row) =>
    match row[t.position keyColumn]? with
    | some (some (.long n)) => some n
    | _ => none

/-- Whether each number is smaller than the next. -/
def increases : List Int64 → Bool
  | m :: n :: rest => m < n && increases (n :: rest)
  | _ => true

end RecordSink
