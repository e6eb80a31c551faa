import RecordSink.Config.Options
import RecordSink.Database.Connection
/-!
Retention: what a run does to a table, and the plan that says which table, how many rows, and when.
-/
namespace RecordSink

/-- What a run of retention did. -/
inductive Trimming where
  /-- There is no such table. -/
  | skipped
  /-- All rows are gone. -/
  | truncated
  /-- This many rows are gone, the oldest ones. -/
  | deleted (n : Nat)
  deriving DecidableEq, Repr

namespace Action

/-- One run of retention, on a connection of its own: `keep` rows are removed from the front, or all
if `keep` is zero. -/
def trim (table : String) (keep : UInt64) : Action Trimming :=
  onConnection do
    if ← Dialogue.tableExists table then
      if keep = 0 then
        let _ ← Dialogue.execute (Sql.Statement.truncate table).text
        return .truncated
      else
        return .deleted (← Dialogue.execute (Sql.Statement.delete table (some keep.toNat)).text)
    else
      return .skipped

end Action

/-- What retention does once it is armed. -/
structure Plan where
  /-- The table. -/
  table : String
  /-- The number of rows that a run removes; zero for all. -/
  keep : UInt64
  /-- The time before each run, in milliseconds. -/
  delay : Nat
  /-- Whether there is more than one run. -/
  recurring : Bool
  deriving DecidableEq, Repr

/-- The plan that options ask for: none if retention is off or there is no table. -/
def Plan.ofOptions? (naming : Naming) (o : Options) : Option Plan :=
  if o.cleanupRate = 0 then none
  else
    match o.table naming with
    | .error _ => none
    | .ok table => some ⟨table, o.recordsToKeep, o.cleanupRate, o.schedule = .recurring⟩

end RecordSink
