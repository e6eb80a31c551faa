import RecordSink.Database.Connection
import RecordSink.Store.Columns
/-!
Inserting a record as one row: the key column gets a timestamp, and every field its own column. The
row is staged and committed on a connection of its own.
-/
namespace RecordSink

/-- The statement that inserts a row with values in these columns. -/
def insertStatement (table : String) (columns : List String) : Sql.Statement :=
  .insert table columns columns.length

namespace Action

/-- Inserts a row into a table and commits it. -/
def insertRow (table : String) (values : NamedValues) : Action Unit :=
  onConnection do
    let statement := insertStatement table (values.map Prod.fst)
    let _ ← Dialogue.executeWith statement.text (values.map Prod.snd)
    Dialogue.commit

/-- Inserts a record with this timestamp as its key. -/
def insertRecord (naming : Naming) (table : String) (r : Record) (timestamp : Int64) :
    Action Unit := do
  let columns ← ofExcept .precondition (r.columns naming)
  insertRow table ((keyColumn, .long timestamp) :: columns)

end Action
end RecordSink
