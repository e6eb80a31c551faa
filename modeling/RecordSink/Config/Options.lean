import RecordSink.Config.Parameter
import RecordSink.Sql.Name
import RecordSink.Text.Blank
/-!
Options of a store: which table, and when which rows are removed from it. They are made from the
settings of the section `store`.
-/
namespace RecordSink

/-- How often retention runs after it was armed. -/
inductive Schedule where
  /-- One time. -/
  | once
  /-- Again and again, until something else is armed. -/
  | recurring
  deriving DecidableEq, Repr

namespace Schedule

/-- The name of a schedule. -/
def name : Schedule → String
  | once => "once"
  | recurring => "recurring"

/-- The schedule with this name. -/
def ofName (text : String) : Except Problem Schedule :=
  if text = "once" then .ok once
  else if text = "recurring" then .ok recurring
  else .error (.unknownSchedule text)

theorem ofName_name (s : Schedule) : ofName s.name = .ok s := by
  cases s <;> rfl

end Schedule

/-- The options of a store. -/
structure Options where
  /-- The name of the table, without what is put in front of it. -/
  tableName : String
  /-- What is put in front of the name of the table. -/
  tablePrefix : String
  /-- The delay before retention runs, in milliseconds. Without delay there is no retention. -/
  cleanupRate : Nat
  /-- The number of rows that a run removes. Zero empties the table. -/
  recordsToKeep : UInt64
  /-- How often retention runs. -/
  schedule : Schedule
  deriving DecidableEq, Repr

namespace Options

/-- The options for a table if nothing else is said. -/
def standard (tableName : String) : Options :=
  ⟨tableName, "WR_", 900000, 5000, .once⟩

/-- The parameters of the section `store`. -/
def parameters : List Parameter := [
  .declare "table_name" .text .reload none
    "Name of the table records are stored in (without prefix)",
  .declare "table_prefix" .text .restart (some (.text "WR_"))
    "Prefix prepended to the table name",
  .declare "cleanup_rate_secs" .uint64 .reload (some (.uint64 900))
    "Delay before retention runs, in seconds; 0 disables retention",
  .declare "records_to_keep" .uint64 .reload (some (.uint64 5000))
    "Rows removed per retention run; 0 truncates the table",
  .declare "cleanup_schedule" .text .reload (some (.text "once"))
    "\"once\": one run per configuration change, \"recurring\": run every cleanup_rate_secs"]

/-- The value that is there, or the problem that it is not set. -/
def needed (name : String) : Option α → Except Problem α
  | some a => .ok a
  | none => .error (.unsetParameter name)

/-- The options that settings stand for. -/
def ofSettings (s : Settings) : Except Problem Options := do
  let tableName ← needed "table_name" (s.text? "table_name")
  let tablePrefix ← needed "table_prefix" (s.text? "table_prefix")
  let seconds ← needed "cleanup_rate_secs" (s.uint64? "cleanup_rate_secs")
  let recordsToKeep ← needed "records_to_keep" (s.uint64? "records_to_keep")
  let schedule ← needed "cleanup_schedule" (s.text? "cleanup_schedule")
  return ⟨tableName, tablePrefix, seconds.toNat * 1000, recordsToKeep, ← Schedule.ofName schedule⟩

/-- The table that the options name: the trimmed name with what is put in front of it. -/
def table (o : Options) (naming : Naming) : Except Precondition String :=
  let name := Text.trim o.tableName
  if name.isEmpty then .error .blankTable else .ok (naming (o.tablePrefix ++ name))

end Options
end RecordSink
