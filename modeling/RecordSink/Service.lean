import RecordSink.Config.Configuration
import RecordSink.Database.Settings
import RecordSink.Json.Record
import RecordSink.Store.Basic
import RecordSink.Text.Lines
/-!
Services. A service is started from a configuration, stores and forwards the batches that it receives
line by line, and takes over a new configuration while it runs, except for what only a restart can
change. A configuration that it does not take over leaves it as it was.
-/
namespace RecordSink

/-- What keeps a service from starting. -/
inductive StartError where
  /-- A problem with the configuration or the store. -/
  | service (e : ServiceError)
  /-- A failure of the database. -/
  | database (f : Failure)
  deriving DecidableEq, Repr

/-- The error in words. -/
def StartError.display : StartError → String
  | service e => e.display
  | database f => "database: " ++ f.display

/-- The error as the program reports it. -/
def StartError.complaint (e : StartError) : String :=
  "Error: " ++ e.display

/-- Forwards each batch as a line of JSON. -/
def Emitter.lines : Emitter (List String) := fun batch _ =>
  modify fun lines => lines ++ [Batch.json batch]

/-- A service that forwards batches into a state of type `σ`. -/
structure Service (σ : Type) where
  /-- The configuration that it runs with. -/
  config : Configuration
  /-- The settings that were made from it. -/
  settings : Settings
  /-- The store. -/
  store : Store σ
  /-- The database. -/
  database : Database

namespace Service

/-- A service on a database that is there already; its section of the configuration is ignored. -/
def startOn (db : Database) (c : Configuration) (clock : Clock) (emit : Emitter σ) (downstream : σ)
    (now : Instant) : Except ServiceError (Service σ) := do
  let settings ← c.settings
  let options ← Configuration.options settings
  let store ← Store.activate .standard options clock emit downstream now
  return ⟨c, settings, store, db⟩

/-- A service on a new database. -/
def start (c : Configuration) (clock : Clock) (emit : Emitter σ) (downstream : σ)
    (now : Instant) : Except StartError (Service σ) := do
  let settings ← c.storeSettings.mapError .service
  let options ← (Configuration.options settings).mapError .service
  let db ← (Database.ofSettings (Configuration.sectionText c.database)).mapError fun f =>
    .database (f.within "[database]")
  let store ← (Store.activate .standard options clock emit downstream now).mapError .service
  return ⟨c, settings, store, db⟩

/-- Takes over a new configuration. The section of the database must be the same, and so must every
parameter that only a restart can change. -/
def reload (s : Service σ) (now : Instant) (c : Configuration) :
    Except ServiceError (Service σ) := do
  if !Toml.sameSections c.database s.config.database then
    throw (.ofProblem .databaseChanged)
  let settings ← c.storeSettings
  (Settings.checkReload s.settings settings Options.parameters).mapError ServiceError.ofProblem
  let store ← s.store.update now (← Configuration.options settings)
  return { s with config := c, settings := settings, store := store }

/-- From now on the clock reads this wall clock. -/
def observe (s : Service σ) (wall : Nat → Int64) : Service σ :=
  { s with store := s.store.observe wall }

/-- Receives a line. Blank lines and those that are no batch change nothing. -/
def receive (s : Service σ) (line : String) : Service σ :=
  if Text.isBlankText line then s
  else
    match Batch.parseLine line with
    | .error _ => s
    | .ok batch =>
      let (_, store, db) := s.store.deliver batch s.database
      { s with store := store, database := db }

/-- Receives lines, one after the other. -/
def receiveAll (s : Service σ) (lines : List String) : Service σ :=
  lines.foldl receive s

/-- The time moves on, and every run of retention that falls due is performed. -/
def advance (s : Service σ) (time : Instant) : Service σ :=
  let (store, db) := s.store.advance time s.database
  { s with store := store, database := db }

/-- What was forwarded, and the service from which it was taken. -/
def collect (s : Service (List String)) : List String × Service (List String) :=
  (s.store.downstream, { s with store := { s.store with downstream := [] } })

/-- Stops retention, for good. -/
def stop (s : Service σ) : Service σ :=
  { s with store := s.store.deactivate }

/-- A service that forwards lines of JSON, with the configuration in a file. -/
def startFile (path : String) (text? : Option String) (clock : Clock) (now : Instant) :
    Except StartError (Service (List String)) := do
  start (← (Configuration.ofFile path text?).mapError .service) clock Emitter.lines [] now

/-- Takes over the configuration in a file. -/
def reloadFile (s : Service σ) (path : String) (text? : Option String) (now : Instant) :
    Except ServiceError (Service σ) := do
  s.reload now (← Configuration.ofFile path text?)

/-- How a run of the service ended. -/
structure Ending where
  /-- The exit code. -/
  code : Nat
  /-- The lines that were forwarded. -/
  output : List String
  /-- What the program reports, if it could not start. -/
  complaint : Option String
  deriving DecidableEq, Repr

/-- A run of the service on a whole input. -/
def run (path : String) (text? : Option String) (clock : Clock) (now : Instant)
    (input : List UInt8) : Ending :=
  match startFile path text? clock now with
  | .error e => ⟨1, [], some e.complaint⟩
  | .ok s => ⟨0, (s.receiveAll (Text.lines input)).store.downstream, none⟩

end Service
end RecordSink
