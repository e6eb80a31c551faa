import RecordSink.Database.Pool
import RecordSink.Proofs.Database.Catalogs
import RecordSink.Proofs.Database.Dialogues
import RecordSink.Proofs.Sql.Reading

/-! The steps of a pool. Whatever is requested on whichever connection, one of four things happens:
no table changes and at most staged rows are forgotten, a parsed statement takes effect, one more
row is staged, or all staged rows of one client are committed. Laws of whole runs follow step by
step. -/
namespace RecordSink

namespace Entries

variable {α : Type} {entries : Entries α} {name other : String}

theorem lookup_remove :
    (remove name entries).lookup other = if other = name then none else entries.lookup other := by
  induction entries with
  | nil => simp [remove]
  | cons entry entries ih =>
    obtain ⟨n, a⟩ := entry
    rw [remove] at ih ⊢
    by_cases gone : n = name
    · subst gone
      rw [List.filter_cons_of_neg (by simp), ih, List.lookup_cons]
      by_cases same : other = n
      · simp [same]
      · simp [same, beq_eq_false_iff_ne.2 same]
    · rw [List.filter_cons_of_pos (by simpa using gone), List.lookup_cons, List.lookup_cons, ih]
      by_cases same : other = n
      · subst same
        simp [gone]
      · rw [beq_eq_false_iff_ne.2 same]

end Entries

namespace Pool

/-- One step of a pool. -/
inductive Step (p : Pool) : Request → Pool → Prop where
  /-- Nothing happens to the tables, and a client keeps its staged rows or has none any more. -/
  | idle (tables : q.database.tables = p.database.tables)
      (rows : ∀ client staged, q.staged? client = some staged →
        staged = [] ∨ p.staged? client = some staged) : Step p r q
  /-- A statement takes effect. -/
  | executed (held : p.staged? client = some staged)
      (calm : p.database.faults.strike? (Sql.verb sql) = none)
      (parsed : Sql.parse sql = .ok statement)
      (applied : p.database.tables.apply statement = .ok (n, tables)) :
      Step p (.execute client sql)
        ⟨p.database.withTables tables, p.connections.put client staged⟩
  /-- A row is staged. -/
  | staged (held : p.staged? client = some staged)
      (calm : p.database.faults.strike? (Sql.verb sql) = none)
      (made : Dialogue.rowToStage sql parameters = .ok s)
      (checked : p.database.tables.checkStaging staged s = .ok ()) :
      Step p (.executeWith client sql parameters)
        ⟨p.database, p.connections.put client (staged ++ [s])⟩
  /-- The staged rows are committed. -/
  | committed (held : p.staged? client = some staged)
      (calm : p.database.faults.strike? "COMMIT" = none)
      (committed : p.database.tables.commit staged = .ok tables) :
      Step p (.commit client) ⟨p.database.withTables tables, p.connections.put client []⟩

variable {p q : Pool} {client other : String}

theorem staged?_put (db : Database) (staged : List StagedRow) :
    staged? ⟨db, p.connections.put client staged⟩ other =
      if other = client then some staged else p.staged? other :=
  Entries.lookup_put client other staged p.connections

theorem staged?_put_self (db : Database) (staged : List StagedRow) :
    staged? ⟨db, p.connections.put client staged⟩ client = some staged :=
  (staged?_put db staged).trans (if_pos rfl)

/-- After talk on one connection that does not touch the tables, the others have what they had. -/
private theorem idle_put {db : Database} {r : Request} {staged kept : List StagedRow}
    (held : p.staged? client = some staged) (tables : db.tables = p.database.tables)
    (fewer : kept = [] ∨ kept = staged) : Step p r ⟨db, p.connections.put client kept⟩ := by
  refine .idle tables fun other rows found => ?_
  rw [staged?_put] at found
  by_cases same : other = client
  · subst same
    rw [if_pos rfl] at found
    cases found
    exact fewer.imp_right fun kept_all => by rw [held, kept_all]
  · rw [if_neg same] at found
    exact .inr found

private theorem step_same (r : Request) : Step p r p :=
  .idle rfl fun _ _ => .inr

private theorem step_connect : Step p (.connect client) (p.connect client).2 := by
  unfold connect
  rw [Action.connect_eq]
  cases p.database.faults.strike? "CONNECT" with
  | some rest => exact .idle rfl fun _ _ => .inr
  | none =>
    by_cases free : p.database.openCount < p.database.limit
    · rw [if_pos free]
      refine .idle ?_ fun other rows found => ?_
      · dsimp only
        split <;> rfl
      · rw [staged?_put] at found
        split at found
        · cases found
          exact .inl rfl
        · exact .inr found
    · rw [if_neg free]
      exact step_same _

private theorem step_close : Step p (.close client) (p.close client).2 := by
  unfold close
  cases p.staged? client with
  | none => exact step_same _
  | some staged =>
    refine .idle rfl fun other rows found => ?_
    rw [staged?, Entries.lookup_remove] at found
    split at found
    · cases found
    · exact .inr found

private theorem step_execute (sql : String) :
    Step p (.execute client sql) (p.talk client (Dialogue.execute sql) .count).2 := by
  unfold talk
  cases held : p.staged? client with
  | none => exact step_same _
  | some staged =>
    dsimp only
    rw [Dialogue.execute_eq]
    cases calm : p.database.faults.strike? (Sql.verb sql) with
    | some rest => exact idle_put held rfl (.inr rfl)
    | none =>
      cases read : (Sql.parse sql).mapError .statement >>= p.database.tables.apply with
      | error cause => exact idle_put held rfl (.inr rfl)
      | ok after =>
        obtain ⟨statement, parsed, applied⟩ := bind_ok_iff.1 read
        exact .executed held calm (mapError_ok_iff.1 parsed) applied

private theorem step_executeWith (sql : String) (parameters : List Value) :
    Step p (.executeWith client sql parameters)
      (p.talk client (Dialogue.executeWith sql parameters) .count).2 := by
  unfold talk
  cases held : p.staged? client with
  | none => exact step_same _
  | some staged =>
    dsimp only
    rw [Dialogue.executeWith_eq]
    cases calm : p.database.faults.strike? (Sql.verb sql) with
    | some rest => exact idle_put held rfl (.inr rfl)
    | none =>
      cases made : Dialogue.rowToStage sql parameters with
      | error cause => exact idle_put held rfl (.inr rfl)
      | ok s =>
        dsimp only
        cases checked : p.database.tables.checkStaging staged s with
        | error m => exact idle_put held rfl (.inr rfl)
        | ok u => exact .staged held calm made checked

private theorem step_commit :
    Step p (.commit client) (p.talk client Dialogue.commit fun _ => .done).2 := by
  unfold talk
  cases held : p.staged? client with
  | none => exact step_same _
  | some staged =>
    dsimp only
    rw [Dialogue.commit_eq]
    cases calm : p.database.faults.strike? "COMMIT" with
    | some rest => exact idle_put held rfl (.inr rfl)
    | none =>
      dsimp only
      cases committed : p.database.tables.commit staged with
      | error m => exact idle_put held rfl (.inl rfl)
      | ok tables => exact .committed held calm committed

private theorem step_tableExists (table : String) : Step p (.tableExists client table)
    (p.talk client (Dialogue.tableExists table) .truth).2 := by
  unfold talk
  cases held : p.staged? client with
  | none => exact step_same _
  | some staged =>
    dsimp only
    rw [Dialogue.tableExists_eq]
    cases p.database.faults.strike? "METADATA" <;> exact idle_put held rfl (.inr rfl)

private theorem step_columns (table : String) : Step p (.columns client table)
    (p.talk client (Dialogue.columns table) .columns).2 := by
  unfold talk
  cases held : p.staged? client with
  | none => exact step_same _
  | some staged =>
    dsimp only
    rw [Dialogue.columns_eq]
    cases p.database.faults.strike? "METADATA" <;> exact idle_put held rfl (.inr rfl)

/-- Serving a request is one step. -/
theorem step_serve (p : Pool) (r : Request) : Step p r (p.serve r).2 := by
  cases r with
  | connect client => exact step_connect
  | close client => exact step_close
  | execute client sql => exact step_execute sql
  | executeWith client sql parameters => exact step_executeWith sql parameters
  | commit client => exact step_commit
  | rollback client =>
    change Step p _ (p.talk client Dialogue.rollback fun _ => .done).2
    unfold talk
    cases held : p.staged? client with
    | none => exact step_same _
    | some staged => exact idle_put held rfl (.inl rfl)
  | tableExists client table => exact step_tableExists table
  | columns client table => exact step_columns table
  | inject verb n => exact .idle rfl fun _ _ => .inr

/-! ## Requests that are accepted -/

section Accepted
variable {staged : List StagedRow}

theorem serve_execute {sql : String} {statement : Sql.Statement} {n : Nat} {tables : Catalog}
    (held : p.staged? client = some staged)
    (calm : p.database.faults.strike? (Sql.verb sql) = none)
    (parsed : Sql.parse sql = .ok statement)
    (applied : p.database.tables.apply statement = .ok (n, tables)) :
    p.serve (.execute client sql) =
      (.count n, ⟨p.database.withTables tables, p.connections.put client staged⟩) := by
  change p.talk client (Dialogue.execute sql) .count = _
  simp only [talk, held, Dialogue.execute_eq, calm, parsed, Except.mapError, ok_bind, applied]

theorem serve_executeWith {s : StagedRow} {sql : String} {parameters : List Value}
    (held : p.staged? client = some staged)
    (calm : p.database.faults.strike? (Sql.verb sql) = none)
    (made : Dialogue.rowToStage sql parameters = .ok s)
    (checked : p.database.tables.checkStaging staged s = .ok ()) :
    p.serve (.executeWith client sql parameters) =
      (.count 1, ⟨p.database, p.connections.put client (staged ++ [s])⟩) := by
  change p.talk client (Dialogue.executeWith sql parameters) .count = _
  simp only [talk, held, Dialogue.executeWith_eq, calm, made, checked]

theorem serve_commit {tables : Catalog} (held : p.staged? client = some staged)
    (calm : p.database.faults.strike? "COMMIT" = none)
    (committed : p.database.tables.commit staged = .ok tables) :
    p.serve (.commit client) =
      (.done, ⟨p.database.withTables tables, p.connections.put client []⟩) := by
  change p.talk client Dialogue.commit (fun _ => .done) = _
  simp only [talk, held, Dialogue.commit_eq, calm, committed]

end Accepted

/-! ## Runs -/

theorem run_cons (r : Request) (rest : List Request) :
    (p.run (r :: rest)).2 = ((p.serve r).2.run rest).2 :=
  rfl

theorem run_append (before after : List Request) :
    (p.run (before ++ after)).2 = ((p.run before).2.run after).2 := by
  induction before generalizing p with
  | nil => rfl
  | cons r before ih => rw [List.cons_append, run_cons, run_cons, ih]

/-- What every step keeps, every run keeps. -/
theorem run_keeps (Kept : Pool → Prop) (start : Kept p)
    (step : ∀ {p q r}, Step p r q → Kept p → Kept q) (requests : List Request) :
    Kept (p.run requests).2 := by
  induction requests generalizing p with
  | nil => exact start
  | cons r rest ih => exact ih (step (step_serve p r) start)

/-- A step is, for the table under each name, what a request may do to it. -/
theorem becomes_of_step {r : Request} (step : Step p r q) (name : String) :
    Becomes name (p.database.tables.get? name) (q.database.tables.get? name) := by
  cases step with
  | idle tables rows =>
    rw [tables]
    exact .same _
  | executed held calm parsed applied =>
    exact Catalog.becomes_of_apply (Sql.names_of_parse parsed) applied name
  | staged held calm made checked => exact .same _
  | committed held calm committed => exact Catalog.becomes_of_commit committed name

end Pool
end RecordSink
