import RecordSink.Database.Pool
import RecordSink.Store.Basic
/-!
Sessions: one database and everything that can act on it, on one virtual time. Clients hold
connections; records are inserted, written and reconciled directly; schedulers have timers armed;
and a store may be active, whose batches are collected. Arming takes turns: of timers that begin to
wait at the same time for the same time, the one with the earlier turn runs first.

A session is more than the program: it brings the runtime that timers sleep on. This one wakes a
timer after thirty years, if its plan lets it sleep for longer.
-/
namespace RecordSink

/-- A database with everything that acts on it. -/
structure Session where
  /-- The database and the connections of its clients. -/
  pool : Pool
  /-- How records become rows. -/
  mapping : Mapping
  /-- The clock of the records that are written without a store. -/
  clock : Clock
  /-- The virtual time. -/
  now : Instant
  /-- The scheduler that is used directly, if there is one. -/
  scheduler : Option Scheduler
  /-- The turn in which the scheduler was armed last. -/
  schedulerTurn : Nat
  /-- Schedulers that were replaced, with their turns; what they have armed stays armed. -/
  detached : List (Nat × Scheduler)
  /-- Where a store forwards its batches. -/
  emit : Emitter (List (List Record))
  /-- The store, if one is active. -/
  store : Option (Store (List (List Record)))
  /-- The turn in which the scheduler of the store was armed last. -/
  storeTurn : Nat
  /-- The turn that comes next. -/
  turn : Nat
  /-- The readings of the wall clock. -/
  wall : Nat → Int64

namespace Session

/-- The time after which the runtime of a session wakes a timer, in milliseconds: thirty years. -/
def longestSleep : Nat :=
  30 * 365 * 24 * 60 * 60 * 1000

/-- A scheduler that was armed just now, with its timer on the runtime of a session. -/
def onRuntime (now : Instant) (scheduler : Scheduler) : Scheduler :=
  { scheduler with
    armed := scheduler.armed.map fun t =>
      .arm now { t.plan with delay := min t.plan.delay longestSleep } }

/-- A session on a database to which nobody holds a connection. -/
def start (db : Database) (m : Mapping) (emit : Emitter (List (List Record)))
    (wall : Nat → Int64) : Session :=
  ⟨⟨db, []⟩, m, .start wall, 0, none, 0, [], emit, none, 0, 0, wall⟩

/-- From now on every clock reads this wall clock. -/
def observe (s : Session) (wall : Nat → Int64) : Session :=
  { s with
    wall := wall
    clock := { s.clock with wall := wall }
    store := s.store.map fun store => store.observe wall }

/-- The database. -/
def database (s : Session) : Database :=
  s.pool.database

/-- The session with another database. -/
def withDatabase (s : Session) (db : Database) : Session :=
  { s with pool := { s.pool with database := db } }

/-- Serves a request of a client. -/
def serve (s : Session) (r : Request) : Answer × Session :=
  let (answer, pool) := s.pool.serve r
  (answer, { s with pool := pool })

/-- Performs a request to the database. -/
def perform (s : Session) (a : Action α) : Except Failure α × Session :=
  let (result, db) := a.attempt s.database
  (result, s.withDatabase db)

/-- Writes a record without a store. -/
def write (s : Session) (o : Options) (r : Record) : Outcome × Session :=
  let (outcome, site) := Site.write s.mapping o r ⟨s.clock, s.database⟩
  (outcome, { s.withDatabase site.database with clock := site.clock })

/-- The scheduler that is used directly, with its turn. -/
def direct (s : Session) : List (Nat × Scheduler) :=
  (s.scheduler.map fun scheduler => (s.schedulerTurn, scheduler)).toList

/-- The scheduler of the store, with its turn. -/
def stored (s : Session) : List (Nat × Scheduler) :=
  (s.store.map fun store => (s.storeTurn, store.scheduler)).toList

/-- All schedulers, in the order of their turns. -/
def schedulers (s : Session) : List Scheduler :=
  ((s.direct ++ s.stored ++ s.detached).mergeSort fun a b => a.1 ≤ b.1).map Prod.snd

/-- The time moves on, and every run that falls due is performed. -/
def advance (s : Session) (span : Nat) : Session :=
  let time := s.now + span
  let due := Firing.inOrder (s.schedulers.flatMap fun scheduler => scheduler.firings time)
  { s.withDatabase (Firing.performAll due s.database) with
    now := time
    scheduler := s.scheduler.map fun scheduler => scheduler.after time
    store := s.store.map fun store => { store with scheduler := store.scheduler.after time }
    detached := s.detached.map fun (turn, scheduler) => (turn, scheduler.after time) }

/-- A new scheduler takes the place of the one before it. -/
def addScheduler (s : Session) : Session :=
  { s with scheduler := some .idle, detached := s.detached ++ s.direct }

/-- Arms a scheduler, which is used directly from now on. A run without delay is performed at once. -/
def arm (s : Session) (scheduler : Scheduler) (plan : Option Plan) :
    Except ServiceError Session := do
  let scheduler ← scheduler.arm s.now plan
  return advance { s with
    scheduler := some (onRuntime s.now scheduler)
    schedulerTurn := s.turn
    turn := s.turn + 1 } 0

/-- The batches that were forwarded. -/
def batches (s : Session) : List (List Record) :=
  match s.store with
  | none => []
  | some store => store.downstream

/-- A store becomes active in place of the one before it. -/
def activate (s : Session) (m : Mapping) (o : Options) : Except ServiceError Session := do
  let store ← Store.activate m o (.start s.wall) s.emit s.batches s.now
  return { s with
    store := some { store with scheduler := onRuntime s.now store.scheduler }
    detached := s.detached ++ s.stored
    storeTurn := s.turn
    turn := s.turn + 1 }

/-- Replaces the options of a store. -/
def update (s : Session) (store : Store (List (List Record))) (o : Options) :
    Except ServiceError Session := do
  let store ← store.update s.now o
  return { s with
    store := some { store with scheduler := onRuntime s.now store.scheduler }
    storeTurn := s.turn
    turn := s.turn + 1 }

/-- Delivers a batch to a store. -/
def deliver (s : Session) (store : Store (List (List Record))) (batch : List Record) :
    Report × Session :=
  let (report, store, db) := store.deliver batch s.database
  (report, { s.withDatabase db with store := some store })

/-- The end of the session: all clients close their connections, and nothing is armed any more. -/
def finish (s : Session) : Session :=
  let pool := s.pool.connections.foldl (fun p (client, _) => (p.close client).2) s.pool
  { s with
    pool := pool
    scheduler := s.scheduler.map Scheduler.shutDown
    store := s.store.map Store.deactivate }

end Session
end RecordSink
