import RecordSink.Proofs.Database.Requests
import RecordSink.Proofs.Database.WellFormed
import RecordSink.Proofs.Store.Serial

/-! Laws of everything that a store does to its database. A relation between databases that every
single effect on a connection obeys is obeyed by every insert, reconciliation, write, delivery and
run of retention, whatever the names and whatever fails half way. -/
namespace RecordSink

/-- A relation from each database to what may follow it, that every effect on a connection obeys: a
fault is used up, a statement is applied, staged rows are committed, and a connection that was
opened is closed again. -/
structure Database.Law (R : Database → Database → Prop) : Prop where
  refl : ∀ a, R a a
  trans : ∀ {a b c}, R a b → R b c → R a c
  faults : ∀ a faults, R a (a.withFaults faults)
  applied : ∀ {a s n tables}, (∀ name ∈ s.names, Sql.isName name = true) →
    a.tables.apply s = .ok (n, tables) → R a (a.withTables tables)
  committed : ∀ {a staged tables}, a.tables.commit staged = .ok tables → R a (a.withTables tables)
  connected : ∀ {a b}, R (Action.opened a) b → R a b.release

/-- Well-formed tables stay well formed. -/
theorem Database.law_wellFormed :
    Law fun a b => a.tables.WellFormed → b.tables.WellFormed where
  refl := fun _ well => well
  trans := fun first second well => second (first well)
  faults := fun _ _ well => well
  applied := fun names applied well => Catalog.wellFormed_of_apply well names applied
  committed := fun committed well => Catalog.wellFormed_of_commit well committed
  connected := fun talk well => talk well

section Obeys

variable {R : Database → Database → Prop} (law : Database.Law R)
include law

/-! ## On a connection -/

namespace Dialogue

variable {α β : Type}

/-- Talk that obeys a law, whatever comes of it. -/
def Obeys (R : Database → Database → Prop) (d : Dialogue α) : Prop :=
  Respects (fun a b => R a.database b.database) d

theorem obeys_pure (a : α) : Obeys R (pure a) :=
  respects_pure (fun link => law.refl link.database) a

theorem Obeys.bind {d : Dialogue α} {f : α → Dialogue β} (first : Obeys R d)
    (second : ∀ a, Obeys R (f a)) : Obeys R (d >>= f) :=
  Respects.bind first second law.trans

theorem obeys_tableExists (name : String) : Obeys R (tableExists name) := by
  intro link
  rw [tableExists_eq]
  cases link.database.faults.strike? "METADATA" with
  | some rest => exact law.faults link.database rest
  | none => exact law.refl link.database

theorem obeys_columns (name : String) : Obeys R (columns name) := by
  intro link
  rw [columns_eq]
  cases link.database.faults.strike? "METADATA" with
  | some rest => exact law.faults link.database rest
  | none => exact law.refl link.database

theorem obeys_execute (sql : String) : Obeys R (execute sql) := by
  intro link
  rw [execute_eq]
  cases link.database.faults.strike? (Sql.verb sql) with
  | some rest => exact law.faults link.database rest
  | none =>
    cases parsed : Sql.parse sql with
    | error e => exact law.refl link.database
    | ok s =>
      simp only [Except.mapError, ok_bind]
      cases applied : link.database.tables.apply s with
      | error cause => exact law.refl link.database
      | ok done => exact law.applied (Sql.names_of_parse parsed) applied

theorem obeys_executeWith (sql : String) (parameters : List Value) :
    Obeys R (executeWith sql parameters) := by
  intro link
  rw [executeWith_eq]
  cases link.database.faults.strike? (Sql.verb sql) with
  | some rest => exact law.faults link.database rest
  | none =>
    cases rowToStage sql parameters with
    | error cause => exact law.refl link.database
    | ok s =>
      dsimp only
      cases link.database.tables.checkStaging link.staged s <;> exact law.refl link.database

theorem obeys_commit : Obeys R commit := by
  intro link
  rw [commit_eq]
  cases link.database.faults.strike? "COMMIT" with
  | some rest => exact law.faults link.database rest
  | none =>
    dsimp only
    cases committed : link.database.tables.commit link.staged with
    | error m => exact law.refl link.database
    | ok tables => exact law.committed committed

theorem obeys_alter (context : String) (s : Sql.Statement) : Obeys R (alter context s) := by
  intro link
  have ran := obeys_execute law s.text link
  unfold alter
  cases done : execute s.text link <;> rw [done] at ran <;> exact ran

theorem Talk.obeys {d : Dialogue α} (talk : Talk d) : Obeys R d := by
  induction talk with
  | pure a => exact obeys_pure law a
  | bind first second ih₁ ih₂ => exact ih₁.bind law ih₂
  | tableExists name => exact obeys_tableExists law name
  | columns name => exact obeys_columns law name
  | execute sql => exact obeys_execute law sql
  | executeWith sql parameters => exact obeys_executeWith law sql parameters
  | commit => exact obeys_commit law
  | rollback => exact fun link => law.refl link.database
  | alter context s => exact obeys_alter law context s

end Dialogue

/-! ## On connections of their own -/

namespace Action

variable {α β : Type}

/-- A request that obeys a law, whatever comes of it. -/
def Obeys (R : Database → Database → Prop) (a : Action α) : Prop :=
  Respects R a

theorem obeys_pure (a : α) : Obeys R (pure a) :=
  respects_pure law.refl a

theorem Obeys.bind {a : Action α} {f : α → Action β} (first : Obeys R a)
    (second : ∀ x, Obeys R (f x)) : Obeys R (a >>= f) :=
  Respects.bind first second law.trans

omit law in
/-- The database that a request leaves, as one that always answers. -/
theorem Obeys.attempt {a : Action α} (obeys : Obeys R a) {db db' : Database}
    {result : Except Failure α} (done : a.attempt db = (result, db')) : R db db' := by
  have followed := obeys db
  unfold Action.attempt at done
  cases ran : a db <;> rw [ran] at followed done <;> cases done <;> exact followed

theorem obeys_onConnection {d : Dialogue α} (obeys : d.Obeys R) : Obeys R (onConnection d) := by
  intro db
  rcases onConnection_cases d db with ⟨e, faults, refused⟩ | talked
  · rw [refused]
    exact law.faults db faults
  · have talk := law.connected (obeys ⟨opened db, []⟩)
    have released : reached (closed (d ⟨opened db, []⟩)) =
        (reached (d ⟨opened db, []⟩)).database.release := by
      cases d ⟨opened db, []⟩ <;> rfl
    rw [talked, released]
    exact talk

theorem Serial.obeys {a : Action α} (serial : Serial a) : Obeys R a := by
  induction serial with
  | pure a => exact obeys_pure law a
  | bind first second ih₁ ih₂ => exact ih₁.bind law ih₂
  | checked r => cases r <;> exact law.refl
  | onConnection talk => exact obeys_onConnection law (talk.obeys law)
  | tried serial ih => exact fun db => ih.attempt rfl
  | tables => exact law.refl

end Action

/-! ## Stores -/

theorem Site.obeys_writeAll {m : Mapping} {o : Options} (records : List Record) (s : Site) :
    R s.database (writeAll m o records s).2.database :=
  (serial_writeAll records s.clock).obeys law s.database

theorem Firing.obeys_performAll (firings : List Firing) (db : Database) :
    R db (performAll firings db) := by
  induction firings generalizing db with
  | nil => exact law.refl db
  | cons f rest ih =>
    have trims := (Action.serial_trim f.plan.table f.plan.keep).obeys law
    exact law.trans (trims.attempt rfl) (ih _)

end Obeys
end RecordSink
