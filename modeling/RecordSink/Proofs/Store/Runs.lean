import RecordSink.Proofs.Store.Reconciliations
import RecordSink.Proofs.Store.Writes

/-! Records written one after the other to a calm database that has no tables at first. Every record
with columns of distinct names is stored at its first or second attempt, every other one is given up
at once, and the one table there is afterwards is the table of the history of the stored records. -/
namespace RecordSink

/-! ## Inserts of records -/

namespace Action

variable {table : String} {r : Record} {values : NamedValues}

theorem insertRecord_rejected {p : Precondition} {naming : Naming}
    (refused : r.columns naming = .error p) (timestamp : Int64) (db : Database) :
    insertRecord naming table r timestamp db = .error (.of (.precondition p)) db := by
  rw [insertRecord, refused]
  rfl

/-- If the connection is to be had and the names are free, only faults and mismatches are in the way
of an insert. -/
theorem insertRecord_pliant {db : Database} (pliant : db.Pliant)
    (table_ok : Sql.isName table = true) (named : r.columns .standard = .ok values)
    (names : ∀ name ∈ values.map Prod.fst, Sql.isName name = true) (timestamp : Int64) :
    insertRecord .standard table r timestamp db =
      match db.faults.strike? "INSERT" with
      | some rest => .error (.of (.injected "INSERT")) (db.withFaults rest)
      | none =>
        match db.tables.rowFor ⟨table, (keyColumn, .long timestamp) :: values⟩ with
        | .error m => .error (.of (.mismatch m)) db
        | .ok row =>
          match db.faults.strike? "COMMIT" with
          | some rest => .error (.of (.injected "COMMIT")) (db.withFaults rest)
          | none => .ok () (db.withTables (db.tables.appendRow table row)) := by
  have all_names : ∀ n ∈ table :: ((keyColumn, Value.long timestamp) :: values).map Prod.fst,
      Sql.isName n = true := by
    rw [List.map_cons, List.forall_mem_cons, List.forall_mem_cons]
    exact ⟨table_ok, Sql.keyColumn_is_name, names⟩
  rw [insertRecord, named]
  exact insertRow_quiet (List.cons_ne_nil _ _) all_names pliant.free
    (pliant.sparing _ (by decide) (by decide))

/-- On a calm database the row of a record is added if it can be made. -/
theorem insertRecord_calm {db : Database} (calm : db.Calm) (table_ok : Sql.isName table = true)
    (named : r.columns .standard = .ok values)
    (names : ∀ name ∈ values.map Prod.fst, Sql.isName name = true) (timestamp : Int64) :
    insertRecord .standard table r timestamp db =
      match db.tables.rowFor ⟨table, (keyColumn, .long timestamp) :: values⟩ with
      | .error m => .error (.of (.mismatch m)) db
      | .ok row => .ok () (db.withTables (db.tables.appendRow table row)) := by
  rw [insertRecord_pliant calm.pliant table_ok named names, Database.Calm.strike calm.quiet,
    Database.Calm.strike calm.quiet]

end Action

namespace Site

/-! ## One write -/

/-- A calm database with nothing but the table of a history, which is missing at the very beginning,
and a clock that is not behind the history. -/
structure Holds (table : String) (h : History) (s : Site) : Prop where
  calm : s.database.Calm
  only : ∃ held : Option Table, s.database.tables.Only table held ∧ (held = none ↔ h = []) ∧
    (held.getD .blank).Records h
  past : ∀ e ∈ h, e.timestamp ≤ s.clock.last

variable {table : String} {h : History} {s : Site} {r : Record} {values : NamedValues}

/-- A table in line with a record takes it, and is then the table of the longer history. -/
private theorem insert_aligned {db : Database} {t u : Table} {timestamp : Int64} (calm : db.Calm)
    (table_ok : Sql.isName table = true) (named : r.columns .standard = .ok values)
    (names : ∀ name ∈ values.map Prod.fst, Sql.isName name = true)
    (only : db.tables.Only table (some u)) (records : t.Records h) (aligned : t.Aligned values u)
    (later : ∀ e ∈ h, e.timestamp < timestamp) :
    ∃ tables w, Action.insertRecord .standard table r timestamp db = .ok () (db.withTables tables) ∧
      tables.Only table (some w) ∧ w.Records (h ++ [⟨timestamp, values⟩]) := by
  obtain ⟨-, distinct⟩ := Record.columns_ok named
  obtain ⟨row, made, fresh, longer⟩ := records.more aligned distinct later
  have fits : db.tables.rowFor ⟨table, (keyColumn, .long timestamp) :: values⟩ = .ok row :=
    Catalog.rowFor_ok_iff.2 ⟨u, only.get, made, fresh⟩
  refine ⟨db.tables.set table (u.grow [row]), _, ?_, only.set _, longer⟩
  rw [Action.insertRecord_calm calm table_ok named names, fits]
  exact congrArg (fun tables => EStateM.Result.ok () (db.withTables tables))
    (Catalog.appendRow_eq_set only.get)

section Tries

variable {m : Mapping} {n left : Nat} {db middle : Database}

theorem tryWrite_stored
    (inserted : Action.insertRecord m.naming table r s.clock.next s.database = .ok () db) :
    tryWrite m table r n left s = (.stored n, ⟨s.clock.advance, db⟩) := by
  cases left <;> rw [tryWrite, Action.attempt_ok_iff.2 inserted]

theorem tryWrite_last {e : Failure}
    (failed : Action.insertRecord m.naming table r s.clock.next s.database = .error e db) :
    tryWrite m table r n 0 s = (.abandoned n e, ⟨s.clock.advance, db⟩) := by
  rw [tryWrite, Action.attempt_error_iff.2 failed]

theorem tryWrite_again {e : Failure} {changes : List SchemaChange}
    (failed : Action.insertRecord m.naming table r s.clock.next s.database = .error e middle)
    (other : e.category ≠ .precondition)
    (reconciled : Action.reconcile m.naming m.typing table r middle = .ok changes db) :
    tryWrite m table r n (left + 1) s =
      tryWrite m table r (n + 1) left ⟨s.clock.advance, db⟩ := by
  rw [tryWrite, Action.attempt_error_iff.2 failed]
  simp only [if_neg other, Action.attempt_ok_iff.2 reconciled]

theorem clock_tryWrite (m : Mapping) (table : String) (r : Record) (n left : Nat)
    (s : Site) : ∃ k ≤ left + 1,
    (tryWrite m table r n left s).2.clock = (s.clock.take k).2 := by
  obtain ⟨efforts, more, few, -, -, -, after⟩ :=
    (attempts_tryWrite n left s : Attempts m table r n left s _ _ _).efforts
  exact ⟨more + 1, Nat.succ_le_succ few, congrArg clock after⟩

private theorem last_ne_of_tryWrite
    (below : (tryWrite m table r n left s).2.clock.last ≠ Int64.maxValue) :
    s.clock.last ≠ Int64.maxValue := by
  obtain ⟨k, -, after⟩ := clock_tryWrite m table r n left s
  rw [after] at below
  exact Clock.last_ne_of_take k below

end Tries

theorem write_eq {m : Mapping} {o : Options} (target : o.table m.naming = .ok table) :
    write m o r s = tryWrite m table r 1 maxRetries s := by
  rw [write, target]

/-- An accepted record is stored at its first or second attempt. -/
theorem write_accepted {o : Options} (holds : s.Holds table h)
    (target : o.table .standard = .ok table) (table_ok : Sql.isName table = true)
    (named : r.columns .standard = .ok values)
    (names : ∀ name ∈ values.map Prod.fst, Sql.isName name = true)
    (below : (write .standard o r s).2.clock.last ≠ Int64.maxValue) :
    ∃ k db, write .standard o r s = (.stored k, ⟨(s.clock.take k).2, db⟩) ∧
      Holds table (h ++ [⟨(s.clock.take k).2.last, values⟩]) ⟨(s.clock.take k).2, db⟩ := by
  rw [write_eq (m := .standard) target] at below ⊢
  obtain ⟨held, only, begun, records⟩ := holds.only
  have first := Clock.last_lt_next (last_ne_of_tryWrite below)
  have later : ∀ e ∈ h, e.timestamp < s.clock.next :=
    fun e there => Int64.lt_of_le_of_lt (holds.past e there) first
  have longer_past : ∀ c : Clock, s.clock.last ≤ c.last → ∀ e ∈ h ++ [⟨c.last, values⟩],
      e.timestamp ≤ c.last := by
    intro c since e there
    rcases List.mem_append.1 there with old | new
    · exact Int64.le_trans (holds.past e old) since
    · rw [List.mem_singleton.1 new]
      exact Int64.le_refl _
  have insert := Action.insertRecord_calm holds.calm table_ok named names s.clock.next
  cases fits : s.database.tables.rowFor ⟨table, (keyColumn, .long s.clock.next) :: values⟩ with
  | ok row =>
    -- The row fits, so the table is in line with the record already.
    obtain ⟨t, there, made, -⟩ := Catalog.rowFor_ok_iff.1 fits
    obtain rfl : held = some t := only.get.symm.trans there
    have aligned := records.aligned (Table.rowOf_ok_iff.1 made).1
    obtain ⟨tables, w, inserted, only', longer⟩ :=
      insert_aligned holds.calm table_ok named names only records aligned later
    refine ⟨1, _, tryWrite_stored (m := .standard) inserted, ⟨holds.calm.free, holds.calm.quiet⟩,
      ⟨some w, only', by simp, longer⟩, longer_past s.clock.advance (Int64.le_of_lt first)⟩
  | error m =>
    -- A mismatch is no mistake of the caller, so the table is brought in line and the row fits then.
    rw [fits] at insert
    obtain ⟨changes, middle, u, reconciled, only', aligned⟩ :=
      Action.reconcile_calm holds.calm table_ok named names only records
    have again : tryWrite .standard table r 1 maxRetries s =
        tryWrite .standard table r 2 1 ⟨s.clock.advance, s.database.withTables middle⟩ :=
      tryWrite_again (m := .standard) insert nofun reconciled
    rw [again] at below ⊢
    have second := Clock.last_lt_next (last_ne_of_tryWrite below)
    have calm : (s.database.withTables middle).Calm := ⟨holds.calm.free, holds.calm.quiet⟩
    obtain ⟨tables, w, inserted, only'', longer⟩ :=
      insert_aligned calm table_ok named names only' records aligned
        fun e there => Int64.lt_trans (later e there) second
    exact ⟨2, _, tryWrite_stored (m := .standard) inserted, ⟨holds.calm.free, holds.calm.quiet⟩,
      ⟨some w, only'', by simp, longer⟩,
      longer_past s.clock.advance.advance (Int64.le_of_lt (Int64.lt_trans first second))⟩

/-- A rejected record is given up at once, and only a timestamp is lost. -/
theorem write_rejected {m : Mapping} {o : Options} {p : Precondition}
    (target : o.table m.naming = .ok table) (refused : r.columns m.naming = .error p) :
    write m o r s = (.abandoned 1 (.of (.precondition p)), ⟨s.clock.advance, s.database⟩) := by
  have failed : (Action.insertRecord m.naming table r s.clock.next).attempt s.database =
      (.error (.of (.precondition p)), s.database) :=
    Action.attempt_error_iff.2 (Action.insertRecord_rejected refused s.clock.next s.database)
  rw [write_eq target, maxRetries, tryWrite, failed]
  exact if_pos rfl

/-! ## Many writes -/

/-- The history of the records that are stored when these are written one after the other: each with
the timestamp of the attempt that stored it. -/
def history (o : Options) : List Record → Site → History
  | [], _ => []
  | r :: rest, s =>
    match write .standard o r s with
    | (.stored k, after) =>
      ⟨(s.clock.take k).2.last, r.renamed .standard⟩ :: history o rest after
    | (.abandoned .., after) => history o rest after

/-- What becomes of a record: it is stored, or it has no columns of distinct names and is given
up. -/
def Expected (r : Record) (outcome : Outcome) : Prop :=
  match r.columns .standard with
  | .ok _ => outcome.isStored = true
  | .error p => outcome = .abandoned 1 (.of (.precondition p))

/-- What records come to that are written one after the other. -/
structure Recorded (o : Options) (table : String) (records : List Record) (s : Site) : Prop where
  outcomes : List.Forall₂ Expected records (writeAll .standard o records s).1
  /-- The history is that of the records with columns of distinct names. -/
  accepted : (history o records s).map StoredRow.values =
    records.filterMap fun r => (r.columns .standard).toOption
  /-- The other records leave no trace in the database. -/
  rejected : ∀ before r after p, records = before ++ r :: after → r.columns .standard = .error p →
    (writeAll .standard o (before ++ [r]) s).2.database =
      (writeAll .standard o before s).2.database
  others : ∀ other, other ≠ table →
    (writeAll .standard o records s).2.database.tables.get? other = none
  absent : history o records s = [] →
    (writeAll .standard o records s).2.database.tables.get? table = none
  present : history o records s ≠ [] → ∃ t,
    (writeAll .standard o records s).2.database.tables.get? table = some t ∧
      t.Records (history o records s)

section Run

variable {o : Options} {records : List Record}

theorem writeAll_append (m : Mapping) (before : List Record) (r : Record) (s : Site) :
    (writeAll m o (before ++ [r]) s).2 = (write m o r (writeAll m o before s).2).2 := by
  rw [writeAll_both, writeAll_cons, writeAll_nil]

/-- Every record takes three timestamps at most. -/
theorem clock_writeAll (m : Mapping) (records : List Record) (s : Site) :
    ∃ k ≤ 3 * records.length, (writeAll m o records s).2.clock = (s.clock.take k).2 := by
  induction records generalizing s with
  | nil => exact ⟨0, Nat.zero_le _, by rw [writeAll_nil]; rfl⟩
  | cons r rest ih =>
    have first : ∃ j ≤ 3, (write m o r s).2.clock = (s.clock.take j).2 := by
      unfold write
      split
      · exact ⟨0, Nat.zero_le _, rfl⟩
      · exact clock_tryWrite m _ r 1 maxRetries s
    obtain ⟨j, few, here⟩ := first
    obtain ⟨k, few', later⟩ := ih (write m o r s).2
    refine ⟨j + k, ?_, ?_⟩
    · rw [List.length_cons]
      omega
    · rw [writeAll_cons, ← Clock.take_add, ← here]
      exact later

private theorem last_ne_of_writeAll
    (below : (writeAll .standard o records s).2.clock.last ≠ Int64.maxValue) :
    s.clock.last ≠ Int64.maxValue := by
  obtain ⟨k, -, after⟩ := clock_writeAll (o := o) .standard records s
  rw [after] at below
  exact Clock.last_ne_of_take k below

variable (target : o.table .standard = .ok table) (table_ok : Sql.isName table = true)
include target table_ok

/-- What a run preserves: after any number of writes the database holds the table of the longer
history, and every outcome is the expected one. -/
theorem holds_writeAll (holds : s.Holds table h)
    (names : ∀ r ∈ records, ∀ columns, r.columns .standard = .ok columns →
      ∀ name ∈ columns.map Prod.fst, Sql.isName name = true)
    (below : (writeAll .standard o records s).2.clock.last ≠ Int64.maxValue) :
    (writeAll .standard o records s).2.Holds table (h ++ history o records s) ∧
      List.Forall₂ Expected records (writeAll .standard o records s).1 ∧
      (history o records s).map StoredRow.values =
        records.filterMap fun r => (r.columns .standard).toOption := by
  -- What holds before a record holds after it, of the same history or of one record more.
  induction records generalizing s h with
  | nil => exact ⟨by simpa [history, writeAll] using holds, .nil, rfl⟩
  | cons r rest ih =>
    rw [List.forall_mem_cons] at names
    rw [writeAll_cons] at below ⊢
    have here := last_ne_of_writeAll below
    cases named : r.columns .standard with
    | error p =>
      have given_up := write_rejected (m := .standard) (s := s) target named
      have same : history o (r :: rest) s = history o rest ⟨s.clock.advance, s.database⟩ := by
        rw [history, given_up]
      rw [given_up] at below here ⊢
      have past : ∀ e ∈ h, e.timestamp ≤ s.clock.next := fun e there =>
        Int64.le_trans (holds.past e there)
          (Int64.le_of_lt (Clock.last_lt_next (Clock.last_ne_of_advance here)))
      have holds' : Holds table h ⟨s.clock.advance, s.database⟩ := ⟨holds.calm, holds.only, past⟩
      obtain ⟨longer, outcomes, accepted⟩ := ih holds' names.2 below
      rw [same]
      refine ⟨longer, .cons ?_ outcomes, ?_⟩
      · simp [Expected, named]
      · simpa [named, Except.toOption] using accepted
    | ok values =>
      obtain ⟨k, db, stored, holds'⟩ := write_accepted holds target table_ok named
        (names.1 values named) here
      obtain ⟨rfl, -⟩ := Record.columns_ok named
      have one_more : history o (r :: rest) s = ⟨(s.clock.take k).2.last, r.renamed .standard⟩ ::
          history o rest ⟨(s.clock.take k).2, db⟩ := by
        rw [history, stored]
      rw [stored] at below ⊢
      obtain ⟨longer, outcomes, accepted⟩ := ih holds' names.2 below
      rw [one_more]
      refine ⟨?_, .cons ?_ outcomes, ?_⟩
      · simpa using longer
      · simp [Expected, named, Outcome.isStored]
      · simpa [named, Except.toOption] using accepted

end Run

/-- **The table is a function of the history.** From an empty calm database, as long as the clock
has timestamps left, records without reserved words for names come to what `Recorded` says. -/
theorem table_of_records (o : Options) (table : String) (records : List Record) (s : Site)
    (target : o.table .standard = .ok table) (free_table : Sql.isReserved table = false)
    (free_columns : ∀ r ∈ records, ∀ columns, r.columns .standard = .ok columns →
      ∀ name ∈ columns.map Prod.fst, Sql.isReserved name = false)
    (fresh : s.database.tables = .empty) (calm : s.database.Calm)
    (below : (writeAll .standard o records s).2.clock.last ≠ Int64.maxValue) :
    Recorded o table records s := by
  have table_ok : Sql.isName table = true :=
    Sql.isName_iff.2 ⟨word_of_table target, free_table⟩
  have names : ∀ r ∈ records, ∀ columns, r.columns .standard = .ok columns →
      ∀ name ∈ columns.map Prod.fst, Sql.isName name = true := by
    intro r among columns named name held
    exact Sql.isName_iff.2 ⟨Record.isWord_of_columns named name held,
      free_columns r among columns named name held⟩
  have start : s.Holds table [] := by
    refine ⟨calm, ⟨none, fun name => ?_, by simp, Table.records_blank⟩, nofun⟩
    rw [fresh]
    split <;> rfl
  obtain ⟨holds, outcomes, accepted⟩ := holds_writeAll target table_ok start names below
  rw [List.nil_append] at holds
  obtain ⟨held, only, begun, records'⟩ := holds.only
  refine ⟨outcomes, accepted, fun before r after p _ refused => ?_, fun other apart => ?_,
    fun none_stored => ?_, fun some_stored => ?_⟩
  · rw [writeAll_append, write_rejected (m := .standard) target refused]
  · rw [only, if_neg apart]
  · rw [only.get, begun.2 none_stored]
  · cases held with
    | none => exact absurd (begun.1 rfl) some_stored
    | some t => exact ⟨t, only.get, records'⟩

/-- A column is made for a number and made anew for a text, and one of the records is rejected. -/
theorem table_of_drifting_records :
    Recorded (.standard "t") "WR_t" [⟨[("v", .integer 1)], by decide⟩,
      ⟨[("v", .string "one")], by decide⟩, ⟨[("A", .integer 1), ("a", .integer 2)], by decide⟩,
      ⟨[("w", .boolean true)], by decide⟩] ⟨.start fun _ => 5, .empty 1⟩ := by
  refine table_of_records _ _ _ _ (by decide +kernel) (by decide +kernel) ?_ rfl
    ⟨Nat.one_pos, fun _ => rfl⟩ ?_
  · intro r among columns named
    obtain ⟨rfl, -⟩ := Record.columns_ok named
    clear named
    revert r
    decide +kernel
  · have early : ∀ k ≤ 12, ((Clock.start fun _ => 5).take k).2.last ≠ Int64.maxValue := by decide
    obtain ⟨k, few, after⟩ := clock_writeAll .standard _ _
    rw [after]
    exact early k few

end Site
end RecordSink
