import RecordSink.Proofs.Database.Catalogs
import RecordSink.Proofs.Database.Dialogues
import RecordSink.Proofs.Sql.RoundTrip
import RecordSink.Proofs.Sql.Verbs
import RecordSink.Store.Insert

/-! Requests that are written for statements. Their texts are read back as the statements, so a
request either fails and changes no more than the pending faults, or does what its statement says.
On a calm database it does what its statement says whenever that is possible. -/
namespace RecordSink

/-- A database with a free connection and without pending faults. -/
structure Database.Calm (db : Database) : Prop where
  free : db.openCount < db.limit
  quiet : ∀ verb, db.faults.pending verb = 0

theorem Database.Calm.strike {db : Database} (quiet : ∀ verb, db.faults.pending verb = 0)
    (verb : String) : db.faults.strike? verb = none :=
  (Faults.strike?_eq_none_iff _ _).2 (quiet verb)

namespace Dialogue

variable {link : Link} {s : Sql.Statement} {table : String} {values : NamedValues}

/-- A request to change tables fails without changing any, or its statement takes effect. -/
theorem execute_text_cases (words : ∀ n ∈ s.names, Sql.isWord n = true) (complete : s.Complete) :
    (∃ e faults, execute s.text link =
      .error e { link with database := link.database.withFaults faults }) ∨
    ∃ n tables, (∀ n ∈ s.names, Sql.isName n = true) ∧
      link.database.tables.apply s = .ok (n, tables) ∧
      execute s.text link = .ok n { link with database := link.database.withTables tables } := by
  rw [execute_eq]
  cases link.database.faults.strike? (Sql.verb s.text) with
  | some rest => exact .inl ⟨_, rest, rfl⟩
  | none =>
    cases read : (Sql.parse s.text).mapError .statement >>= link.database.tables.apply with
    | error cause => exact .inl ⟨_, link.database.faults, rfl⟩
    | ok after =>
      obtain ⟨t, parsed, applied⟩ := bind_ok_iff.1 read
      have names := Sql.names_of_parse (mapError_ok_iff.1 parsed)
      cases Sql.eq_of_parse_text words complete (mapError_ok_iff.1 parsed)
      exact .inr ⟨after.1, after.2, names, applied, rfl⟩

/-- A request whose statement is of names fails by a fault of its verb, or as its statement does. -/
theorem execute_text (names : ∀ n ∈ s.names, Sql.isName n = true) (complete : s.Complete) :
    execute s.text link =
      match link.database.faults.strike? s.verb with
      | some rest => .error (.of (.injected s.verb))
          { link with database := link.database.withFaults rest }
      | none =>
        match link.database.tables.apply s with
        | .error cause => .error (.of cause) link
        | .ok (n, tables) => .ok n { link with database := link.database.withTables tables } := by
  rw [execute_eq, Sql.verb_text, Sql.parse_text names complete]
  rfl

theorem execute_text_quiet (names : ∀ n ∈ s.names, Sql.isName n = true) (complete : s.Complete)
    (quiet : link.database.faults.pending s.verb = 0) {n : Nat} {tables : Catalog}
    (applied : link.database.tables.apply s = .ok (n, tables)) :
    execute s.text link = .ok n { link with database := link.database.withTables tables } := by
  rw [execute_text names complete, (Faults.strike?_eq_none_iff _ _).2 quiet]
  simp only [applied]

/-! ## Inserts -/

theorem insertStatement_complete (some_value : values ≠ []) :
    (insertStatement table (values.map Prod.fst)).Complete := by
  cases values with
  | nil => exact absurd rfl some_value
  | cons value values => exact ⟨List.cons_ne_nil _ _, Nat.succ_ne_zero _⟩

private theorem rowToStage_of_parse
    (read : Sql.parse (insertStatement table (values.map Prod.fst)).text =
      .ok (insertStatement table (values.map Prod.fst))) :
    rowToStage (insertStatement table (values.map Prod.fst)).text (values.map Prod.snd) =
      .ok ⟨table, values⟩ := by
  have paired : values = (values.map Prod.fst).zip (values.map Prod.snd) := List.zip_of_prod rfl rfl
  rw [rowToStage, read]
  simp [Except.mapError, insertStatement, ← paired]

/-- A request to insert values stages exactly these values, if neither a fault strikes nor a name is
reserved and the row can be made. -/
theorem executeWith_text (link : Link) (some_value : values ≠ [])
    (words : ∀ n ∈ table :: values.map Prod.fst, Sql.isWord n = true) :
    executeWith (insertStatement table (values.map Prod.fst)).text (values.map Prod.snd) link =
      match link.database.faults.strike? "INSERT" with
      | some rest => .error (.of (.injected "INSERT"))
          { link with database := link.database.withFaults rest }
      | none =>
        match Sql.parse (insertStatement table (values.map Prod.fst)).text with
        | .error e => .error (.of (.statement e)) link
        | .ok _ =>
          match link.database.tables.checkStaging link.staged ⟨table, values⟩ with
          | .error m => .error (.of (.mismatch m)) link
          | .ok () => .ok 1 { link with staged := link.staged ++ [⟨table, values⟩] } := by
  have verb : (insertStatement table (values.map Prod.fst)).verb = "INSERT" := rfl
  rw [executeWith_eq, Sql.verb_text, verb]
  cases link.database.faults.strike? "INSERT" with
  | some rest => rfl
  | none =>
    cases read : Sql.parse (insertStatement table (values.map Prod.fst)).text with
    | error e =>
      simp only [rowToStage, read, Except.mapError, error_bind]
    | ok t =>
      obtain rfl : t = insertStatement table (values.map Prod.fst) :=
        Sql.eq_of_parse_text words (insertStatement_complete some_value) read
      rewrite [rowToStage_of_parse read]
      rfl

end Dialogue

/-! ## Connections of their own -/

namespace Action

variable {α : Type} {db : Database} {table : String} {values : NamedValues}

/-- The database with one connection more. -/
def opened (db : Database) : Database :=
  { db with openCount := db.openCount + 1 }

/-- What is left of talk on a connection of its own: its answer and the database without the
connection. -/
def closed (result : EStateM.Result Failure Link α) : EStateM.Result Failure Database α :=
  match result with
  | .ok x link => .ok x link.database.release
  | .error e link => .error e link.database.release

/-- Either no connection is to be had, or one is taken. -/
theorem connect_cases (db : Database) :
    (∃ e faults, connect db = .error e (db.withFaults faults) ∧ ∀ m, e.cause ≠ .mismatch m) ∨
      connect db = .ok () (opened db) := by
  rw [connect_eq]
  cases db.faults.strike? "CONNECT" with
  | some rest => exact .inl ⟨_, rest, rfl, nofun⟩
  | none =>
    by_cases free : db.openCount < db.limit
    · simp only [if_pos free]
      exact .inr rfl
    · simp only [if_neg free]
      exact .inl ⟨_, db.faults, rfl, nofun⟩

theorem connect_quiet (free : db.openCount < db.limit) (quiet : db.faults.pending "CONNECT" = 0) :
    connect db = .ok () (opened db) := by
  rw [connect_eq, (Faults.strike?_eq_none_iff _ _).2 quiet]
  simp only [if_pos free]
  rfl

theorem onConnection_eq (d : Dialogue α) (db : Database) :
    onConnection d db = match connect db with
      | .ok _ db => closed (d ⟨db, []⟩)
      | .error e db => .error e db := by
  simp only [onConnection, bind, EStateM.bind]
  cases connect db <;> rfl

/-- Either no connection is to be had, or the talk takes place. -/
theorem onConnection_cases (d : Dialogue α) (db : Database) :
    (∃ e faults, onConnection d db = .error e (db.withFaults faults)) ∨
      onConnection d db = closed (d ⟨opened db, []⟩) := by
  rw [onConnection_eq]
  rcases connect_cases db with ⟨e, faults, refused, -⟩ | taken
  · rw [refused]
    exact .inl ⟨e, faults, rfl⟩
  · rw [taken]
    exact .inr rfl

theorem onConnection_quiet (free : db.openCount < db.limit)
    (quiet : db.faults.pending "CONNECT" = 0) (d : Dialogue α) :
    onConnection d db = closed (d ⟨opened db, []⟩) := by
  rw [onConnection_eq, connect_quiet free quiet]

/-- What inserting values comes to on a connection of its own: the first obstacle in the order of a
fault, a reserved name, a row that cannot be made and a fault at the commit, or else the row. -/
def inserted (table : String) (values : NamedValues) (db : Database) :
    EStateM.Result Failure Database Unit :=
  match db.faults.strike? "INSERT" with
  | some rest => .error (.of (.injected "INSERT")) (db.withFaults rest)
  | none =>
    match Sql.parse (insertStatement table (values.map Prod.fst)).text with
    | .error e => .error (.of (.statement e)) db
    | .ok _ =>
      match db.tables.rowFor ⟨table, values⟩ with
      | .error m => .error (.of (.mismatch m)) db
      | .ok row =>
        match db.faults.strike? "COMMIT" with
        | some rest => .error (.of (.injected "COMMIT")) (db.withFaults rest)
        | none => .ok () (db.withTables (db.tables.appendRow table row))

theorem insertRow_eq (some_value : values ≠ [])
    (words : ∀ n ∈ table :: values.map Prod.fst, Sql.isWord n = true) (db : Database) :
    insertRow table values db = match connect db with
      | .ok _ _ => inserted table values db
      | .error e db => .error e db := by
  rw [insertRow, onConnection_eq]
  rcases connect_cases db with ⟨e, faults, refused, -⟩ | taken
  · rw [refused]
  rw [taken]
  dsimp only
  have faults_of : (opened db).faults = db.faults := rfl
  have tables_of : (opened db).tables = db.tables := rfl
  rw [bind_apply, Dialogue.executeWith_text ⟨opened db, []⟩ some_value words, inserted]
  simp only [faults_of, tables_of, Catalog.checkStaging_nil, List.nil_append]
  cases db.faults.strike? "INSERT" with
  | some rest => rfl
  | none =>
    cases Sql.parse (insertStatement table (values.map Prod.fst)).text with
    | error e => rfl
    | ok s =>
      cases made : db.tables.rowFor ⟨table, values⟩ with
      | error m => rfl
      | ok row =>
        simp only [Except.map, Dialogue.commit_eq, faults_of, tables_of]
        cases db.faults.strike? "COMMIT" with
        | some rest => rfl
        | none =>
          simp only [Catalog.commit_singleton, made, Except.map]
          rfl

/-- Values that are not inserted change no table, and if they are refused for a mismatch, that is
what keeps their row from being made. -/
theorem inserted_cases (table : String) (values : NamedValues) (db : Database) :
    (∃ e faults, inserted table values db = .error e (db.withFaults faults) ∧
      ∀ m, e.cause = .mismatch m → db.tables.rowFor ⟨table, values⟩ = .error m) ∨
    ∃ row, db.tables.rowFor ⟨table, values⟩ = .ok row ∧
      inserted table values db = .ok () (db.withTables (db.tables.appendRow table row)) := by
  unfold inserted
  cases db.faults.strike? "INSERT" with
  | some rest => exact .inl ⟨_, rest, rfl, nofun⟩
  | none =>
    cases Sql.parse (insertStatement table (values.map Prod.fst)).text with
    | error e => exact .inl ⟨_, db.faults, rfl, nofun⟩
    | ok s =>
      cases made : db.tables.rowFor ⟨table, values⟩ with
      | error m =>
        refine .inl ⟨_, db.faults, rfl, ?_⟩
        rintro m' ⟨⟩
        rfl
      | ok row =>
        cases db.faults.strike? "COMMIT" with
        | some rest => exact .inl ⟨_, rest, rfl, nofun⟩
        | none => exact .inr ⟨row, rfl, rfl⟩

/-- Inserting values fails without changing a table, or adds the row that they make. -/
theorem insertRow_cases (some_value : values ≠ [])
    (words : ∀ n ∈ table :: values.map Prod.fst, Sql.isWord n = true) (db : Database) :
    (∃ e faults, insertRow table values db = .error e (db.withFaults faults) ∧
      ∀ m, e.cause = .mismatch m → db.tables.rowFor ⟨table, values⟩ = .error m) ∨
    ∃ row, db.tables.rowFor ⟨table, values⟩ = .ok row ∧
      insertRow table values db = .ok () (db.withTables (db.tables.appendRow table row)) := by
  rw [insertRow_eq some_value words]
  rcases connect_cases db with ⟨e, faults, refused, other⟩ | taken
  · rw [refused]
    exact .inl ⟨e, faults, rfl, fun m same => absurd same (other m)⟩
  · rw [taken]
    exact inserted_cases table values db

/-- If the connection is to be had and the names are free, only faults and mismatches are in the
way. -/
theorem insertRow_quiet (some_value : values ≠ [])
    (names : ∀ n ∈ table :: values.map Prod.fst, Sql.isName n = true)
    (free : db.openCount < db.limit) (quiet : db.faults.pending "CONNECT" = 0) :
    insertRow table values db =
      match db.faults.strike? "INSERT" with
      | some rest => .error (.of (.injected "INSERT")) (db.withFaults rest)
      | none =>
        match db.tables.rowFor ⟨table, values⟩ with
        | .error m => .error (.of (.mismatch m)) db
        | .ok row =>
          match db.faults.strike? "COMMIT" with
          | some rest => .error (.of (.injected "COMMIT")) (db.withFaults rest)
          | none => .ok () (db.withTables (db.tables.appendRow table row)) := by
  have words : ∀ n ∈ table :: values.map Prod.fst, Sql.isWord n = true := fun n held =>
    (Sql.isName_iff.1 (names n held)).1
  rw [insertRow_eq some_value words, connect_quiet free quiet]
  dsimp only
  have read : Sql.parse (insertStatement table (values.map Prod.fst)).text =
      .ok (insertStatement table (values.map Prod.fst)) :=
    Sql.parse_text names (Dialogue.insertStatement_complete some_value)
  rw [inserted, read]

end Action
end RecordSink
