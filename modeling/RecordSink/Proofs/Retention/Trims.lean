import RecordSink.Proofs.Database.Requests
import RecordSink.Proofs.Database.WellFormed
import RecordSink.Retention.Plan

/-! Runs of retention. A run fails and changes no table, or finds none to change, or takes rows from
the front of its table. Only faults and the want of a connection make it fail: the table that it
finds has a name that can be written, so its statement is read back and takes effect. -/
namespace RecordSink

/-- What a run makes of its table: the number of rows that go, and what is left. -/
def Table.trimmed (t : Table) (keep : UInt64) : Nat × Table :=
  t.deleteRows (if keep = 0 then none else some keep.toNat)

/-- The verb of the statement of a run. -/
def trimVerb (keep : UInt64) : String :=
  if keep = 0 then "TRUNCATE" else "DELETE"

namespace Action

variable {db : Database} {table : String} {t : Table}

/-- The statement of a run that finds its table is struck by a fault, or takes rows from it. -/
private theorem statement_eq {s : Sql.Statement} {limit : Option Nat}
    (answer : Nat → Trimming) (named : Sql.isName table = true)
    (held : db.tables.get? table = some t) (names : s.names = [table]) (complete : s.Complete)
    (effect : db.tables.apply s = (db.tables.deleteRows table limit).mapError .mismatch) :
    closed ((Dialogue.execute s.text >>= fun n => pure (answer n)) ⟨opened db, []⟩) =
      match db.faults.strike? s.verb with
      | some rest => .error (.of (.injected s.verb)) (db.withFaults rest)
      | none => .ok (answer (t.deleteRows limit).1)
          (db.withTables (db.tables.set table (t.deleteRows limit).2)) := by
  have takes : db.tables.apply s = .ok ((t.deleteRows limit).1,
      db.tables.set table (t.deleteRows limit).2) := by
    rw [effect, mapError_ok_iff, Catalog.deleteRows_ok_iff]
    exact ⟨t, held, rfl, rfl⟩
  have faults_of : (opened db).faults = db.faults := rfl
  have tables_of : (opened db).tables = db.tables := rfl
  rw [bind_apply, Dialogue.execute_text (names ▸ List.forall_mem_singleton.2 named) complete]
  simp only [faults_of, tables_of, takes]
  cases db.faults.strike? s.verb <;> rfl

/-- What a run comes to on its connection: a fault of the look-up or of the statement, no table, or
the rows that it takes. -/
def trimmed (table : String) (keep : UInt64) (db : Database) :
    EStateM.Result Failure Database Trimming :=
  match db.faults.strike? "METADATA" with
  | some rest => .error (.of (.injected "METADATA")) (db.withFaults rest)
  | none =>
    match db.tables.get? table with
    | none => .ok .skipped db
    | some t =>
      match db.faults.strike? (trimVerb keep) with
      | some rest => .error (.of (.injected (trimVerb keep))) (db.withFaults rest)
      | none => .ok (if keep = 0 then .truncated else .deleted (t.trimmed keep).1)
          (db.withTables (db.tables.set table (t.trimmed keep).2))

theorem trim_eq (well : db.tables.WellFormed) (table : String) (keep : UInt64) :
    trim table keep db = match connect db with
      | .ok _ _ => trimmed table keep db
      | .error e db => .error e db := by
  rw [trim, onConnection_eq]
  rcases connect_cases db with ⟨e, faults, refused, -⟩ | taken
  · rw [refused]
  rw [taken]
  dsimp only
  have faults_of : (opened db).faults = db.faults := rfl
  have tables_of : (opened db).tables = db.tables := rfl
  rw [bind_apply, Dialogue.tableExists_eq, trimmed]
  simp only [faults_of, tables_of]
  cases db.faults.strike? "METADATA" with
  | some rest => rfl
  | none =>
    cases held : db.tables.get? table with
    | none => rfl
    | some t =>
      have named := well.named table t held
      have few : keep.toNat ≤ Sql.maxNumber := Nat.le_of_lt_succ keep.toNat_lt
      by_cases all : keep = 0
      · simp only [Option.isSome_some, if_true, Table.trimmed, trimVerb, if_pos all]
        exact statement_eq (s := .truncate table) (fun _ => .truncated) named held rfl trivial rfl
      · simp only [Option.isSome_some, if_true, Table.trimmed, trimVerb, if_neg all]
        exact statement_eq (s := .delete table (some keep.toNat)) .deleted named held rfl few rfl

theorem trim_cases (well : db.tables.WellFormed) (table : String) (keep : UInt64) :
    (∃ e faults, trim table keep db = .error e (db.withFaults faults)) ∨
    (db.tables.get? table = none ∧ trim table keep db = .ok .skipped db) ∨
    ∃ t, db.tables.get? table = some t ∧ trim table keep db =
      .ok (if keep = 0 then .truncated else .deleted (t.trimmed keep).1)
        (db.withTables (db.tables.set table (t.trimmed keep).2)) := by
  rw [trim_eq well]
  rcases connect_cases db with ⟨e, faults, refused, -⟩ | taken
  · rw [refused]
    exact .inl ⟨e, faults, rfl⟩
  rw [taken]
  unfold trimmed
  dsimp only
  cases db.faults.strike? "METADATA" with
  | some rest => exact .inl ⟨_, rest, rfl⟩
  | none =>
    cases held : db.tables.get? table with
    | none => exact .inr (.inl ⟨rfl, rfl⟩)
    | some t =>
      cases db.faults.strike? (trimVerb keep) with
      | some rest => exact .inl ⟨_, rest, rfl⟩
      | none => exact .inr (.inr ⟨t, rfl, rfl⟩)

/-- On a calm database a run does not fail. -/
theorem trim_calm (calm : db.Calm) (well : db.tables.WellFormed) (table : String)
    (keep : UInt64) :
    trim table keep db = match db.tables.get? table with
      | none => .ok .skipped db
      | some t => .ok (if keep = 0 then .truncated else .deleted (t.trimmed keep).1)
          (db.withTables (db.tables.set table (t.trimmed keep).2)) := by
  have quiet := Database.Calm.strike calm.quiet
  rw [trim_eq well, connect_quiet calm.free (calm.quiet _), trimmed]
  simp only [quiet]

end Action
end RecordSink
