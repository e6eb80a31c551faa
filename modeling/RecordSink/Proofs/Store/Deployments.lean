import RecordSink.Proofs.Database.Steps
import RecordSink.Store.Basic

/-! Deployments: a store on a database that nobody else writes to. Whatever happens to the store or
on the connections of other clients happens as one event after the other, and laws of whole runs
follow event by event. -/
namespace RecordSink

/-- Whether a request may change tables. -/
def Request.writes : Request → Bool
  | .execute .. => true
  | .commit _ => true
  | _ => false

/-- Requests that do not write leave the tables alone, even if they stage rows or inject faults. -/
theorem Pool.tables_of_step {p q : Pool} {r : Request} (step : Step p r q)
    (reads : r.writes = false) : q.database.tables = p.database.tables := by
  cases step with
  | idle tables rows => exact tables
  | executed held calm parsed applied => cases reads
  | staged held calm made checked => rfl
  | committed held calm committed => cases reads

/-- What one event alone brings about, and for good, holds after a run exactly if it held before or
the event is among those of the run. -/
theorem foldl_holds_iff {S E : Type} {after : S → E → S} {e : E} (Holds : S → Prop)
    (step : ∀ s d, Holds (after s d) ↔ Holds s ∨ d = e) (s : S) (events : List E) :
    Holds (events.foldl after s) ↔ Holds s ∨ e ∈ events := by
  induction events generalizing s with
  | nil => simp
  | cons d rest ih => rw [List.foldl_cons, ih, step, List.mem_cons, or_assoc, eq_comm (a := d)]

/-- An update is accepted unless the store was deactivated. It puts the options in force and the
plan that they make, in place of what was armed. -/
theorem Store.update_ok_iff {σ : Type} {s t : Store σ} {now : Instant} {o : Options} :
    s.update now o = .ok t ↔ s.scheduler.closed = false ∧
      t = { s with
        options := o
        scheduler := ⟨(Plan.ofOptions? s.mapping.naming o).map (Timer.arm now), false⟩ } := by
  cases closed : s.scheduler.closed <;> simp [update, Scheduler.arm, closed, eq_comm]

theorem Store.update_error_iff {σ : Type} {s : Store σ} {now : Instant} {o : Options}
    {e : ServiceError} :
    s.update now o = .error e ↔ s.scheduler.closed = true ∧ e = .shutDown := by
  cases closed : s.scheduler.closed <;> simp [update, Scheduler.arm, closed, eq_comm]

/-- A store on its database, at a point in virtual time. -/
structure Deployment (σ : Type) where
  store : Store σ
  pool : Pool
  now : Instant

/-- What can happen to a store and its database. -/
inductive Event where
  | deliver (batch : List Record)
  | update (o : Options)
  | advance (span : Nat)
  /-- A run of retention apart from those that fall due, such as one whose plan was replaced
  meanwhile. -/
  | trim (table : String) (keep : UInt64)
  | deactivate
  | observe (wall : Nat → Int64)
  | request (r : { r : Request // r.writes = false })

namespace Deployment

variable {σ : Type}

/-- A store that was just activated, on a database without tables. -/
def start (limit : Nat) (m : Mapping) (o : Options) (wall : Nat → Int64) (emit : Emitter σ)
    (downstream : σ) (now : Instant) : Except ServiceError (Deployment σ) := do
  let store ← Store.activate m o (.start wall) emit downstream now
  return ⟨store, .empty limit, now⟩

def database (d : Deployment σ) : Database :=
  d.pool.database

def withDatabase (d : Deployment σ) (db : Database) : Deployment σ :=
  { d with pool := { d.pool with database := db } }

/-- The deployment after an event. An update that is refused changes nothing. -/
def after (d : Deployment σ) : Event → Deployment σ
  | .deliver batch =>
    let (_, store, db) := d.store.deliver batch d.database
    { d.withDatabase db with store := store }
  | .update o =>
    match d.store.update d.now o with
    | .ok store => { d with store := store }
    | .error _ => d
  | .advance span =>
    let (store, db) := d.store.advance (d.now + span) d.database
    { d.withDatabase db with store := store, now := d.now + span }
  | .trim table keep => d.withDatabase ((Action.trim table keep).attempt d.database).2
  | .deactivate => { d with store := d.store.deactivate }
  | .observe wall => { d with store := d.store.observe wall }
  | .request r => { d with pool := (d.pool.serve r).2 }

variable {d : Deployment σ}

/-- An update changes the options and what is armed, or nothing. -/
theorem after_update_cases (o : Options) : d.after (.update o) = d ∨
    ∃ scheduler, d.after (.update o) =
      { d with store := { d.store with scheduler := scheduler, options := o } } := by
  dsimp only [after]
  cases updated : d.store.update d.now o with
  | error e => exact .inl rfl
  | ok store =>
    obtain ⟨scheduler, -, same⟩ := bind_ok_iff.1 updated
    cases same
    exact .inr ⟨scheduler, rfl⟩

def run (d : Deployment σ) (events : List Event) : Deployment σ :=
  events.foldl after d

/-- What every event keeps, every run keeps. -/
theorem run_keeps (Kept : Deployment σ → Prop) (start : Kept d)
    (step : ∀ {d} e, Kept d → Kept (d.after e)) (events : List Event) : Kept (d.run events) := by
  induction events generalizing d with
  | nil => exact start
  | cons e events ih => exact ih (step e start)

end Deployment
end RecordSink
