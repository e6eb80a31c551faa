import RecordSink.Config.Options
import RecordSink.Store.Clock
import RecordSink.Store.Insert
import RecordSink.Store.Reconcile
/-!
Writing a record: it is inserted, and if that fails for any reason but a mistake of the caller, the
table is reconciled with it and the insert tried again, twice at most. Every attempt takes a new
timestamp. Writing never fails; its outcome says what became of the record.
-/
namespace RecordSink

/-- What became of a record. -/
inductive Outcome where
  /-- It was stored at this attempt. -/
  | stored (attempts : Nat)
  /-- It was given up after these attempts, for this reason. -/
  | abandoned (attempts : Nat) (why : Failure)
  deriving DecidableEq, Repr

/-- Whether the record was stored. -/
def Outcome.isStored : Outcome → Bool
  | .stored _ => true
  | .abandoned .. => false

/-- How records become rows: the names and the types of the columns. -/
structure Mapping where
  /-- How the fields are named. -/
  naming : Naming
  /-- How the values are typed. -/
  typing : Typing

/-- Standard names, and for each kind the type that takes it. -/
def Mapping.standard : Mapping :=
  ⟨.standard, .standard⟩

/-- A database and the clock that the rows get their keys from. -/
structure Site where
  /-- The clock. -/
  clock : Clock
  /-- The database. -/
  database : Database

namespace Site

/-- The number of times that a record is tried again. -/
def maxRetries : Nat :=
  2

/-- One insert with a new timestamp, and what follows it: `retries` more, each after the table was
reconciled. -/
def tryWrite (m : Mapping) (table : String) (r : Record) (attempts : Nat) :
    (retries : Nat) → Site → Outcome × Site
  | 0, s =>
    match (Action.insertRecord m.naming table r s.clock.next).attempt s.database with
    | (.ok (), db) => (.stored attempts, ⟨s.clock.advance, db⟩)
    | (.error e, db) => (.abandoned attempts e, ⟨s.clock.advance, db⟩)
  | retries + 1, s =>
    match (Action.insertRecord m.naming table r s.clock.next).attempt s.database with
    | (.ok (), db) => (.stored attempts, ⟨s.clock.advance, db⟩)
    | (.error e, db) =>
      if e.category = .precondition then (.abandoned attempts e, ⟨s.clock.advance, db⟩)
      else
        match (Action.reconcile m.naming m.typing table r).attempt db with
        | (.error e, db) => (.abandoned attempts e, ⟨s.clock.advance, db⟩)
        | (.ok _, db) => tryWrite m table r (attempts + 1) retries ⟨s.clock.advance, db⟩

/-- Writes a record into the table of the options. Without a table nothing is attempted. -/
def write (m : Mapping) (o : Options) (r : Record) (s : Site) : Outcome × Site :=
  match o.table m.naming with
  | .error p => (.abandoned 0 (.of (.precondition p)), s)
  | .ok table => tryWrite m table r 1 maxRetries s

end Site
end RecordSink
