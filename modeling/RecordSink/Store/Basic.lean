import RecordSink.Retention.Scheduler
import RecordSink.Store.Write
/-!
Stores. A store writes every record of a batch and then forwards the whole batch once, whatever
became of the records. Its options can be replaced: retention is armed anew first, and only if that
works are the options current.
-/
namespace RecordSink

/-- Where batches are forwarded to. What comes of it may depend on the tables that it finds. It may
fail, and changes a state of its own. -/
abbrev Emitter (σ : Type) := List Record → Catalog → EStateM Failure σ Unit

namespace Emitter

/-- Keeps every batch, in order. -/
def collecting : Emitter (List (List Record)) := fun batch _ =>
  modify fun batches => batches ++ [batch]

/-- Forwards batches to nobody. -/
def silent : Emitter σ := fun _ _ =>
  return

/-- Fails on every batch. -/
def failing (f : Failure) : Emitter σ := fun _ _ =>
  throw f

end Emitter

/-- What became of a batch. -/
structure Report where
  /-- The number of records that were stored. -/
  stored : Nat
  /-- The number of records that were not. -/
  abandoned : Nat
  deriving DecidableEq, Repr

/-- A store that forwards batches into a state of type `σ`. -/
structure Store (σ : Type) where
  /-- How records become rows. -/
  mapping : Mapping
  /-- The current options. -/
  options : Options
  /-- The scheduler of retention. -/
  scheduler : Scheduler
  /-- The clock that the rows get their keys from. -/
  clock : Clock
  /-- Where batches are forwarded to. -/
  emit : Emitter σ
  /-- What was forwarded so far. -/
  downstream : σ

namespace Site

/-- Writes records one after the other. -/
def writeAll (m : Mapping) (o : Options) : List Record → Site → List Outcome × Site
  | [], s => ([], s)
  | r :: rest, s =>
    let (outcome, s) := write m o r s
    let (outcomes, s) := writeAll m o rest s
    (outcome :: outcomes, s)

end Site

namespace Store

/-- The report on what became of the records. -/
def report (outcomes : List Outcome) : Report :=
  ⟨outcomes.countP Outcome.isStored, outcomes.countP fun o => !o.isStored⟩

/-- The state after a batch was forwarded, whether that failed or not. -/
def forward (emit : Emitter σ) (batch : List Record) (tables : Catalog) (downstream : σ) : σ :=
  match emit batch tables downstream with
  | .ok () after => after
  | .error _ after => after

/-- A new store; its retention is armed at once. -/
def activate (m : Mapping) (o : Options) (clock : Clock) (emit : Emitter σ) (downstream : σ)
    (now : Instant) : Except ServiceError (Store σ) := do
  let scheduler ← Scheduler.idle.arm now (Plan.ofOptions? m.naming o)
  return ⟨m, o, scheduler, clock, emit, downstream⟩

/-- The store with new options, if retention can be armed for them. -/
def update (s : Store σ) (now : Instant) (o : Options) : Except ServiceError (Store σ) := do
  let scheduler ← s.scheduler.arm now (Plan.ofOptions? s.mapping.naming o)
  return { s with scheduler := scheduler, options := o }

/-- The store without retention, for good. Batches are delivered as before. -/
def deactivate (s : Store σ) : Store σ :=
  { s with scheduler := s.scheduler.shutDown }

/-- From now on the clock of the store reads this wall clock. -/
def observe (s : Store σ) (wall : Nat → Int64) : Store σ :=
  { s with clock := { s.clock with wall := wall } }

/-- Writes every record of a batch, then forwards the batch. -/
def deliver (s : Store σ) (batch : List Record) (db : Database) : Report × Store σ × Database :=
  let (outcomes, site) := Site.writeAll s.mapping s.options batch ⟨s.clock, db⟩
  (report outcomes,
    { s with
      clock := site.clock
      downstream := forward s.emit batch site.database.tables s.downstream },
    site.database)

/-- The store after the runs of its retention up to a time, and the database after them. -/
def advance (s : Store σ) (time : Instant) (db : Database) : Store σ × Database :=
  ({ s with scheduler := s.scheduler.after time },
    Firing.performAll (s.scheduler.firings time) db)

end Store
end RecordSink
