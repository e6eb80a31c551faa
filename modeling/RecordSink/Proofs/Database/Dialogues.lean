import RecordSink.Database.Connection
import RecordSink.Proofs.Results

/-! What each request on a connection does, in one equation. A pending fault of its verb strikes
first and is used up; otherwise the request fails and changes nothing, or it succeeds and changes
what it says. Only a commit that is refused also forgets the staged rows. -/
namespace RecordSink

/-- The database with these faults pending instead. -/
def Database.withFaults (db : Database) (faults : Faults) : Database :=
  { db with faults := faults }

/-- The database with these tables instead. -/
def Database.withTables (db : Database) (tables : Catalog) : Database :=
  { db with tables := tables }

namespace Action

theorem ofExcept_apply {ε α : Type} (cause : ε → Cause) (r : Except ε α) (db : Database) :
    ofExcept cause r db = match r with
      | .ok a => .ok a db
      | .error e => .error (.of (cause e)) db := by
  cases r <;> rfl

theorem connect_eq (db : Database) :
    connect db =
      match db.faults.strike? "CONNECT" with
      | some rest => .error (.of (.injected "CONNECT")) (db.withFaults rest)
      | none =>
        if db.openCount < db.limit then .ok () { db with openCount := db.openCount + 1 }
        else .error (.of (.noConnection db.limit)) db := by
  simp only [connect, passFaults, bind_apply, get_apply]
  cases db.faults.strike? "CONNECT" with
  | some rest => rfl
  | none => by_cases free : db.openCount < db.limit <;> simp only [free, if_true, if_false] <;> rfl

end Action

namespace Dialogue

variable (link : Link)

theorem tableExists_eq (name : String) :
    tableExists name link =
      match link.database.faults.strike? "METADATA" with
      | some rest =>
        .error (.of (.injected "METADATA")) { link with database := link.database.withFaults rest }
      | none => .ok (link.database.tables.get? name).isSome link := by
  simp only [tableExists, ofAction, Action.passFaults, bind_apply, get_apply, pure_apply]
  cases link.database.faults.strike? "METADATA" <;> rfl

theorem columns_eq (name : String) :
    columns name link =
      match link.database.faults.strike? "METADATA" with
      | some rest =>
        .error (.of (.injected "METADATA")) { link with database := link.database.withFaults rest }
      | none => .ok ((link.database.tables.get? name).elim [] Table.shape) link := by
  simp only [columns, ofAction, Action.passFaults, bind_apply, get_apply]
  cases link.database.faults.strike? "METADATA" with
  | some rest => rfl
  | none => cases found : link.database.tables.get? name <;> simp only [found] <;> rfl

theorem execute_eq (sql : String) :
    execute sql link =
      match link.database.faults.strike? (Sql.verb sql) with
      | some rest => .error (.of (.injected (Sql.verb sql)))
          { link with database := link.database.withFaults rest }
      | none =>
        match (Sql.parse sql).mapError .statement >>= link.database.tables.apply with
        | .error cause => .error (.of cause) link
        | .ok (n, tables) => .ok n { link with database := link.database.withTables tables } := by
  simp only [execute, ofAction, Action.passFaults, Action.ofExcept_apply, bind_apply, get_apply,
    set_apply, pure_apply]
  cases link.database.faults.strike? (Sql.verb sql) with
  | some rest => rfl
  | none =>
    cases Sql.parse sql with
    | error e => rfl
    | ok statement =>
      simp only [Except.mapError, ok_bind]
      cases link.database.tables.apply statement <;> rfl

theorem executeWith_eq (sql : String) (parameters : List Value) :
    executeWith sql parameters link =
      match link.database.faults.strike? (Sql.verb sql) with
      | some rest => .error (.of (.injected (Sql.verb sql)))
          { link with database := link.database.withFaults rest }
      | none =>
        match rowToStage sql parameters with
        | .error cause => .error (.of cause) link
        | .ok s =>
          match link.database.tables.checkStaging link.staged s with
          | .error m => .error (.of (.mismatch m)) link
          | .ok () => .ok 1 { link with staged := link.staged ++ [s] } := by
  simp only [executeWith, ofAction, Action.passFaults, Action.ofExcept_apply, bind_apply, get_apply,
    set_apply, pure_apply]
  cases link.database.faults.strike? (Sql.verb sql) with
  | some rest => rfl
  | none =>
    cases rowToStage sql parameters with
    | error cause => rfl
    | ok s =>
      dsimp only
      cases link.database.tables.checkStaging link.staged s <;> rfl

theorem commit_eq :
    commit link =
      match link.database.faults.strike? "COMMIT" with
      | some rest =>
        .error (.of (.injected "COMMIT")) { link with database := link.database.withFaults rest }
      | none =>
        match link.database.tables.commit link.staged with
        | .error m => .error (.of (.mismatch m)) { link with staged := [] }
        | .ok tables => .ok () ⟨link.database.withTables tables, []⟩ := by
  simp only [commit, ofAction, Action.passFaults, Action.ofExcept_apply, bind_apply, get_apply,
    set_apply, modify_apply]
  cases link.database.faults.strike? "COMMIT" with
  | some rest => rfl
  | none =>
    dsimp only
    cases link.database.tables.commit link.staged <;> rfl

end Dialogue
end RecordSink
