import RecordSink.Database.Catalog
import RecordSink.Database.Faults
/-!
Databases: tables, pending faults, and a number of open connections that does not exceed a limit. An
`Action` is a request to a database: it ends in an answer or a failure, and either way leaves a
database.
-/
namespace RecordSink

/-- A database. -/
structure Database where
  /-- The tables. -/
  tables : Catalog
  /-- The faults that have not struck yet. -/
  faults : Faults
  /-- The number of connections that are open. -/
  openCount : Nat
  /-- The number of connections that may be open at once. -/
  limit : Nat
  deriving DecidableEq, Repr

namespace Database

/-- An empty database that allows this many connections. -/
def empty (limit : Nat) : Database :=
  ⟨.empty, .none, 0, limit⟩

/-- The number of connections that a database allows if nothing else is said. -/
def standardLimit : Nat :=
  64

/-- The database with more faults pending. -/
def inject (db : Database) (verb : String) (n : Nat) : Database :=
  { db with faults := db.faults.inject verb n }

/-- The database with one connection fewer. -/
def release (db : Database) : Database :=
  { db with openCount := db.openCount - 1 }

end Database

/-- A request to a database. -/
abbrev Action := EStateM Failure Database

namespace Action

/-- Fails with this cause. -/
def fail (cause : Cause) : Action α :=
  throw (.of cause)

/-- The result, its errors turned into causes. -/
def ofExcept (cause : ε → Cause) : Except ε α → Action α
  | .ok a => return a
  | .error e => fail (cause e)

/-- Fails if a fault of this verb is pending, and uses it up. -/
def passFaults (verb : String) : Action Unit := fun db =>
  match db.faults.strike? verb with
  | some rest => .error (.of (.injected verb)) { db with faults := rest }
  | none => .ok () db

/-- A connection is taken, if one is free. -/
def connect : Action Unit := do
  passFaults "CONNECT"
  let db ← get
  if db.openCount < db.limit then set { db with openCount := db.openCount + 1 }
  else fail (.noConnection db.limit)

/-- The request, its failure put in a context. -/
def within (context : String) (a : Action α) : Action α := fun db =>
  match a db with
  | .ok x db => .ok x db
  | .error e db => .error (e.within context) db

/-- The request as one that always ends in an answer: its result. -/
def attempt (a : Action α) (db : Database) : Except Failure α × Database :=
  match a db with
  | .ok x db => (.ok x, db)
  | .error e db => (.error e, db)

end Action
end RecordSink
