import RecordSink.Proofs.Store.Efforts
import RecordSink.Store.Basic

/-! A write stores its record once or not at all. Whatever state the database is in and whatever
faults are pending, a write is a short run of efforts: inserts, each with a new timestamp, and
between them reconciliations. Only the last insert can succeed, and it is the only effort that adds
a row. -/
namespace RecordSink

/-- A row that holds a record: the timestamp in the key column, each field in its own column, and
nothing in any other. -/
structure Table.HoldsRecord (t : Table) (i : Nat) (naming : Naming) (r : Record)
    (timestamp : Int64) : Prop where
  key : t.cell? i keyColumn = some (some (.long timestamp))
  fields : ∀ field value, (field, value) ∈ r.fields → t.cell? i (naming field) = some (some value)
  empty : ∀ c ∈ t.columns, c.name ≠ keyColumn →
    (∀ field value, (field, value) ∈ r.fields → naming field ≠ c.name) →
    t.cell? i c.name = some none

theorem Table.holdsRecord_grow {t : Table} {row : Row} {naming : Naming} {r : Record}
    {timestamp : Int64} (well : t.WellFormed)
    (made : t.rowOf (r.rowValues naming timestamp) = .ok row) :
    (t.grow [row]).HoldsRecord t.rows.length naming r timestamp := by
  have takes := (rowOf_ok_iff.1 made).1
  -- Each value has a column of its name, and is what the names of the values find.
  have value : ∀ name v, (name, v) ∈ r.rowValues naming timestamp →
      (t.grow [row]).cell? t.rows.length name = some (some v) := by
    intro name v held
    obtain ⟨c, found, -⟩ := takes.typed _ held
    rw [cell?_grow_last well made, found, Option.map_some, lookup_of_mem takes.once held]
  refine ⟨value _ _ (.head _), fun field v held => value _ _ (.tail _ (List.mem_map.2 ⟨_, held, rfl⟩)),
    fun c held other unnamed => ?_⟩
  have found : t.column? c.name = some c := find?_name_of_mem well.distinct held
  have missing : (r.rowValues naming timestamp).lookup c.name = none := by
    rw [List.lookup_eq_none_iff]
    rintro entry held
    rcases List.mem_cons.1 held with rfl | field
    · simpa using other
    · obtain ⟨⟨name, v⟩, there, rfl⟩ := List.mem_map.1 field
      simpa using (unnamed name v there).symm
  rw [cell?_grow_last well made, found, missing]
  rfl

/-! ## Timestamps -/

namespace Clock

theorem take_succ (c : Clock) (k : Nat) :
    c.take (k + 1) = (c.next :: (c.advance.take k).1, (c.advance.take k).2) :=
  rfl

/-- No timestamp is smaller than the one before it. -/
theorem last_le_next (c : Clock) : c.last ≤ c.next := by
  by_cases top : c.last = Int64.maxValue
  · have largest : c.wall c.taken ≤ Int64.maxValue := Int64.le_maxValue _
    rw [next, successor, if_pos top, top]
    exact Int64.le_of_eq (if_pos largest).symm
  · exact Int64.le_of_lt (last_lt_next top)

/-- The last timestamp that is taken is one of those that are taken. -/
theorem last_mem_take (c : Clock) (k : Nat) : (c.take (k + 1)).2.last ∈ (c.take (k + 1)).1 := by
  induction k generalizing c with
  | zero => simp [Clock.take, Clock.advance]
  | succ k ih =>
    rw [take_succ]
    exact .tail _ (ih c.advance)

/-- A clock has timestamps left before it takes one, if it has some afterwards. -/
theorem last_ne_of_advance {c : Clock} (below : c.advance.last ≠ Int64.maxValue) :
    c.last ≠ Int64.maxValue := by
  intro last
  have largest : c.wall c.taken ≤ Int64.maxValue := Int64.le_maxValue _
  refine below ?_
  rw [advance, next, successor, if_pos last, last]
  exact if_pos largest

theorem last_ne_of_take {c : Clock} (k : Nat) (below : (c.take k).2.last ≠ Int64.maxValue) :
    c.last ≠ Int64.maxValue := by
  induction k generalizing c with
  | zero => exact below
  | succ k ih => exact last_ne_of_advance (ih below)

theorem take_add (c : Clock) (j k : Nat) : ((c.take j).2.take k).2 = (c.take (j + k)).2 := by
  induction j generalizing c with
  | zero => rw [Nat.zero_add, take]
  | succ j ih =>
    rw [Nat.succ_add]
    exact ih c.advance

end Clock

/-! ## Efforts -/

namespace Action

theorem attempt_ok_iff {α : Type} {a : Action α} {db db' : Database} {x : α} :
    a.attempt db = (.ok x, db') ↔ a db = .ok x db' := by
  unfold Action.attempt
  cases a db <;> simp

theorem attempt_error_iff {α : Type} {a : Action α} {db db' : Database} {e : Failure} :
    a.attempt db = (.error e, db') ↔ a db = .error e db' := by
  unfold Action.attempt
  cases a db <;> simp

end Action

/-- The number of inserts that an outcome tells of. -/
def Outcome.attempts : Outcome → Nat
  | .stored n => n
  | .abandoned n _ => n

/-- One effort of a write. -/
inductive Effort where
  | insert (timestamp : Int64)
  | reconciliation
  deriving DecidableEq

namespace Effort

/-- The timestamp that an effort takes. -/
def timestamp? : Effort → Option Int64
  | insert timestamp => some timestamp
  | reconciliation => none

/-- The database after an effort, whatever came of it. -/
def perform (m : Mapping) (table : String) (r : Record) (db : Database) : Effort → Database
  | insert timestamp => ((Action.insertRecord m.naming table r timestamp).attempt db).2
  | reconciliation => ((Action.reconcile m.naming m.typing table r).attempt db).2

end Effort

namespace Site

/-- The failures of the inserts of a write, first to last. -/
def refusals (m : Mapping) (table : String) (r : Record) : (retries : Nat) → Site → List Failure
  | 0, s =>
    match (Action.insertRecord m.naming table r s.clock.next).attempt s.database with
    | (.ok (), _) => []
    | (.error e, _) => [e]
  | retries + 1, s =>
    match (Action.insertRecord m.naming table r s.clock.next).attempt s.database with
    | (.ok (), _) => []
    | (.error e, db) =>
      if e.category = .precondition then [e]
      else
        match (Action.reconcile m.naming m.typing table r).attempt db with
        | (.error _, _) => [e]
        | (.ok _, db) => e :: refusals m table r retries ⟨s.clock.advance, db⟩

/-- How a write comes to its outcome, when it counts this attempt and may try this often again, and
which failures its inserts have met until then. -/
inductive Attempts (m : Mapping) (table : String) (r : Record) :
    Nat → Nat → Site → List Failure → Outcome → Site → Prop where
  /-- The insert succeeds. -/
  | stored {s : Site} {db : Database} {n left : Nat}
      (inserted : (Action.insertRecord m.naming table r s.clock.next).attempt s.database =
        (.ok (), db)) :
      Attempts m table r n left s [] (.stored n) ⟨s.clock.advance, db⟩
  /-- The insert fails for good. -/
  | givenUp {s : Site} {e : Failure} {db : Database} {n left : Nat}
      (failed : (Action.insertRecord m.naming table r s.clock.next).attempt s.database =
        (.error e, db)) :
      Attempts m table r n left s [e] (.abandoned n e) ⟨s.clock.advance, db⟩
  /-- The insert fails, and so does the reconciliation. -/
  | unreconciled {s : Site} {e e' : Failure} {middle db : Database} {n left : Nat}
      (failed : (Action.insertRecord m.naming table r s.clock.next).attempt s.database =
        (.error e, middle))
      (refused : (Action.reconcile m.naming m.typing table r).attempt middle = (.error e', db)) :
      Attempts m table r n (left + 1) s [e] (.abandoned n e') ⟨s.clock.advance, db⟩
  /-- The insert fails, and the write goes on after a reconciliation. -/
  | again {s after : Site} {e : Failure} {middle db : Database} {changes : List SchemaChange}
      {n left : Nat} {failures : List Failure} {outcome : Outcome}
      (failed : (Action.insertRecord m.naming table r s.clock.next).attempt s.database =
        (.error e, middle))
      (reconciled : (Action.reconcile m.naming m.typing table r).attempt middle =
        (.ok changes, db))
      (rest : Attempts m table r (n + 1) left ⟨s.clock.advance, db⟩ failures outcome after) :
      Attempts m table r n (left + 1) s (e :: failures) outcome after

variable {m : Mapping} {table : String} {r : Record} {n left : Nat} {s after : Site}
variable {failures : List Failure} {outcome : Outcome}

/-- A write makes these attempts: its outcome, the site that it leaves and the failures of its
inserts all come of them. -/
theorem attempts_tryWrite (n left : Nat) (s : Site) :
    Attempts m table r n left s (refusals m table r left s)
      (tryWrite m table r n left s).1 (tryWrite m table r n left s).2 := by
  induction left generalizing n s with
  | zero =>
    unfold refusals tryWrite
    rcases inserted : (Action.insertRecord m.naming table r s.clock.next).attempt s.database with
      ⟨e | u, db⟩
    · exact .givenUp inserted
    · exact .stored inserted
  | succ left ih =>
    unfold refusals tryWrite
    rcases inserted : (Action.insertRecord m.naming table r s.clock.next).attempt s.database with
      ⟨e | u, middle⟩
    · dsimp only
      by_cases final : e.category = .precondition
      · rw [if_pos final, if_pos final]
        exact .givenUp inserted
      · rw [if_neg final, if_neg final]
        rcases reconciled : (Action.reconcile m.naming m.typing table r).attempt middle with
          ⟨e' | changes, db⟩
        · exact .unreconciled inserted reconciled
        · exact .again inserted reconciled (ih ..)
    · exact .stored inserted

/-- A run of efforts with new timestamps, no more inserts and reconciliations than allowed. -/
theorem Attempts.efforts (attempts : Attempts m table r n left s failures outcome after) :
    ∃ (efforts : List Effort) (more : Nat), more ≤ left ∧ outcome.attempts = n + more ∧
      efforts.filterMap Effort.timestamp? = (s.clock.take (more + 1)).1 ∧
      efforts.count .reconciliation ≤ left ∧
      after = ⟨(s.clock.take (more + 1)).2, efforts.foldl (Effort.perform m table r) s.database⟩ := by
  induction attempts with
  | @stored s db n left inserted =>
    refine ⟨[.insert s.clock.next], 0, Nat.zero_le _, rfl, rfl, Nat.zero_le _, ?_⟩
    simp only [List.foldl_cons, List.foldl_nil, Effort.perform, inserted]
    rfl
  | @givenUp s e db n left failed =>
    refine ⟨[.insert s.clock.next], 0, Nat.zero_le _, rfl, rfl, Nat.zero_le _, ?_⟩
    simp only [List.foldl_cons, List.foldl_nil, Effort.perform, failed]
    rfl
  | @unreconciled s e e' middle db n left failed refused =>
    refine ⟨[.insert s.clock.next, .reconciliation], 0, Nat.zero_le _, rfl, rfl,
      Nat.succ_le_succ (Nat.zero_le _), ?_⟩
    simp only [List.foldl_cons, List.foldl_nil, Effort.perform, failed, refused]
    rfl
  | @again s after e middle db changes n left failures outcome failed reconciled rest ih =>
    obtain ⟨efforts, more, few, count, timestamps, passes, rfl⟩ := ih
    refine ⟨.insert s.clock.next :: .reconciliation :: efforts, more + 1, Nat.succ_le_succ few,
      by omega, ?_, ?_, ?_⟩
    · exact congrArg (List.cons s.clock.next) timestamps
    · simpa using passes
    · simp only [List.foldl_cons, Effort.perform, failed, reconciled]
      rfl

section Reshaped

variable (word : Sql.isWord table = true)
variable (spelled : ∀ name ∈ (r.renamed m.naming).map Prod.fst, Sql.isWord name = true)
include word spelled

theorem reshaped_of_failed {timestamp : Int64} {a b : Database} {e : Failure}
    (failed : (Action.insertRecord m.naming table r timestamp).attempt a = (.error e, b)) :
    a.Reshaped table (r.touches m.naming) b := by
  rw [Action.attempt_error_iff] at failed
  rcases Action.insertRecord_cases word spelled timestamp a with
    ⟨e', faults, same, -⟩ | ⟨row, -, same⟩
  · rw [failed] at same
    cases same
    exact ⟨.refl, rfl, rfl⟩
  · rw [failed] at same
    cases same

/-- A write only reshapes its table until its last effort, which adds the row of the record if it is
stored and nothing if it is abandoned. -/
theorem Attempts.reshaped (attempts : Attempts m table r n left s failures outcome after) :
    ∃ db, s.database.Reshaped table (r.touches m.naming) db ∧
      ((∃ k e, outcome = .abandoned k e ∧ after.database = db) ∨
        ∃ k row, outcome = .stored k ∧
          db.tables.rowFor ⟨table, r.rowValues m.naming after.clock.last⟩ = .ok row ∧
          after.database = db.withTables (db.tables.appendRow table row)) := by
  induction attempts with
  | @stored s db n left inserted =>
    rw [Action.attempt_ok_iff] at inserted
    rcases Action.insertRecord_cases word spelled s.clock.next s.database with
      ⟨e, faults, same, -⟩ | ⟨row, made, same⟩
    · rw [inserted] at same
      cases same
    · rw [inserted] at same
      cases same
      exact ⟨s.database, .refl _, .inr ⟨n, row, rfl, made, rfl⟩⟩
  | @givenUp s e db n left failed =>
    exact ⟨db, reshaped_of_failed word spelled failed, .inl ⟨n, e, rfl, rfl⟩⟩
  | @unreconciled s e e' middle db n left failed refused =>
    have second := Action.reshapes_reconcile word spelled m.typing middle
    rw [Action.attempt_error_iff.1 refused] at second
    exact ⟨db, (reshaped_of_failed word spelled failed).trans second, .inl ⟨n, e', rfl, rfl⟩⟩
  | @again s after e middle db changes n left failures outcome failed reconciled rest ih =>
    have second := Action.reshapes_reconcile word spelled m.typing middle
    rw [Action.attempt_ok_iff.1 reconciled] at second
    obtain ⟨last, third, ending⟩ := ih
    exact ⟨last, ((reshaped_of_failed word spelled failed).trans second).trans third, ending⟩

end Reshaped

/-- What a write does: it is a short run of efforts, after which its record is one more row at the
end of its table or nothing is added anywhere; and besides that row, only columns that the record
names can change in what was there before. -/
structure Written (m : Mapping) (table : String) (r : Record) (s : Site) (outcome : Outcome)
    (after : Site) : Prop where
  /-- At most three inserts, with the next timestamps, and at most two reconciliations. -/
  efforts : outcome.attempts ≤ 3 ∧ ∃ efforts : List Effort,
    efforts.filterMap Effort.timestamp? = (s.clock.take outcome.attempts).1 ∧
    efforts.count .reconciliation ≤ 2 ∧
    after = ⟨(s.clock.take outcome.attempts).2,
      efforts.foldl (Effort.perform m table r) s.database⟩
  /-- A stored record is one more row, with one of these timestamps. -/
  stored : ∀ k, outcome = .stored k → ∃ t, after.database.tables.get? table = some t ∧
    t.rows.length = s.database.tables.rowCount table + 1 ∧
    ∃ timestamp ∈ (s.clock.take k).1,
      t.HoldsRecord (s.database.tables.rowCount table) m.naming r timestamp
  /-- An abandoned record is no row. -/
  abandoned : ∀ k e, outcome = .abandoned k e → ∀ name,
    after.database.tables.rowCount name = s.database.tables.rowCount name
  others : ∀ other, other ≠ table →
    after.database.tables.get? other = s.database.tables.get? other
  /-- Earlier rows stay in place and keep all cells in columns that the record does not name. -/
  earlier : ∀ i, i < s.database.tables.rowCount table → ∀ name,
    (∀ field value, (field, value) ∈ r.fields → m.naming field ≠ name) →
    after.database.tables.cell? table i name = s.database.tables.cell? table i name
  /-- Every connection is closed again. -/
  openCount : after.database.openCount = s.database.openCount

private theorem written_tryWrite (word : Sql.isWord table = true)
    (spelled : ∀ name ∈ (r.renamed m.naming).map Prod.fst, Sql.isWord name = true)
    (well : s.database.tables.WellFormed) :
    Written m table r s (tryWrite m table r 1 maxRetries s).1 (tryWrite m table r 1 maxRetries s).2 := by
  have attempts : Attempts m table r 1 maxRetries s _ _ _ := attempts_tryWrite 1 maxRetries s
  generalize (tryWrite m table r 1 maxRetries s).1 = outcome at attempts ⊢
  generalize (tryWrite m table r 1 maxRetries s).2 = after at attempts ⊢
  obtain ⟨efforts, more, few, count, timestamps, passes, reached⟩ := attempts.efforts
  obtain ⟨db, reshaped, ending⟩ := attempts.reshaped word spelled
  have kept := reshaped.kept well
  have number : outcome.attempts = more + 1 := by omega
  have latest : after.clock.last ∈ (s.clock.take outcome.attempts).1 := by
    rw [number, reached]
    exact Clock.last_mem_take s.clock more
  have runs : outcome.attempts ≤ 3 ∧ ∃ efforts : List Effort,
      efforts.filterMap Effort.timestamp? = (s.clock.take outcome.attempts).1 ∧
      efforts.count .reconciliation ≤ 2 ∧
      after = ⟨(s.clock.take outcome.attempts).2,
        efforts.foldl (Effort.perform m table r) s.database⟩ := by
    have bound : maxRetries = 2 := rfl
    exact ⟨by omega, efforts, number ▸ timestamps, passes, number ▸ reached⟩
  have unnamed : ∀ name, (∀ field value, (field, value) ∈ r.fields → m.naming field ≠ name) →
      name ∉ r.touches m.naming := by
    intro name other held
    obtain ⟨entry, among, rfl⟩ := List.mem_map.1 (r.touches_subset m.naming held)
    obtain ⟨⟨field, value⟩, there, rfl⟩ := List.mem_map.1 among
    exact other field value there rfl
  rcases ending with ⟨k, e, rfl, same⟩ | ⟨k, row, rfl, made, same⟩
  · refine ⟨runs, fun _ impossible => Outcome.noConfusion impossible, fun _ _ _ name => ?_,
      fun other apart => ?_, fun i _ name other => ?_, ?_⟩
    · rw [same]
      by_cases target : name = table
      · rw [target, kept.rows]
      · rw [Catalog.rowCount, kept.others name target]
        rfl
    · rw [same, kept.others other apart]
    · rw [same, kept.cells i name (unnamed name other)]
    · rw [same, kept.openCount]
  · obtain ⟨t, held, fits, -⟩ := Catalog.rowFor_ok_iff.1 made
    have rows : t.rows.length = s.database.tables.rowCount table := by
      rw [← kept.rows, Catalog.rowCount, held]
      rfl
    have there : after.database.tables.get? table = some (t.grow [row]) := by
      rw [same, Catalog.appendRow_eq_set held]
      exact (Catalog.get?_set ..).trans (if_pos rfl)
    have holds := Table.holdsRecord_grow (kept.well.tables _ _ held) fits
    refine ⟨runs, fun _ stored => ?_, fun _ _ impossible => Outcome.noConfusion impossible,
      fun other apart => ?_, fun i earlier name other => ?_, ?_⟩
    · cases stored
      refine ⟨_, there, ?_, after.clock.last, latest, rows ▸ holds⟩
      rw [← rows]
      exact List.length_append
    · rw [same, Catalog.appendRow_eq_set held, ← kept.others other apart]
      exact (Catalog.get?_set ..).trans (if_neg apart)
    · rw [← kept.cells i name (unnamed name other), Catalog.cell?, Catalog.cell?, there, held]
      exact Table.cell?_grow_of_lt (rows ▸ earlier) name
    · rw [same, ← kept.openCount]
      rfl

/-! ## Many writes -/

section Many

variable (m : Mapping) {o : Options}

theorem writeAll_nil : writeAll m o [] s = ([], s) := by
  rw [writeAll]

theorem writeAll_cons (rest : List Record) :
    writeAll m o (r :: rest) s =
      ((write m o r s).1 :: (writeAll m o rest (write m o r s).2).1,
        (writeAll m o rest (write m o r s).2).2) := by
  rw [writeAll]

/-- Nothing but the site passes from the records that are written first to the others. -/
theorem writeAll_both (first rest : List Record) (s : Site) :
    writeAll m o (first ++ rest) s =
      ((writeAll m o first s).1 ++ (writeAll m o rest (writeAll m o first s).2).1,
        (writeAll m o rest (writeAll m o first s).2).2) := by
  induction first generalizing s with
  | nil => rw [List.nil_append, writeAll_nil, List.nil_append]
  | cons r first ih => rw [List.cons_append, writeAll_cons, writeAll_cons, ih, List.cons_append]

theorem length_writeAll (records : List Record) (s : Site) :
    (writeAll m o records s).1.length = records.length := by
  induction records generalizing s with
  | nil => rfl
  | cons r rest ih => rw [writeAll_cons, List.length_cons, List.length_cons, ih]

end Many

/-- The table of the options bears a word. -/
theorem word_of_table {o : Options} {table : String} (named : o.table .standard = .ok table) :
    Sql.isWord table = true := by
  unfold Options.table at named
  dsimp only at named
  split at named
  · cases named
  · cases named
    exact Sql.standard_is_word _

/-- In every state that requests on any connections can lead to, whatever faults are pending, a
write for standard names does what a write does. -/
theorem write_stores_once_or_not_at_all (limit : Nat) (requests : List Request) (faults : Faults)
    (clock : Clock) (typing : Typing) (o : Options) (r : Record) :
    match o.table .standard with
    | .error p =>
      write ⟨.standard, typing⟩ o r
        ⟨clock, ((Pool.empty limit).run requests).2.database.withFaults faults⟩ =
      (.abandoned 0 (.of (.precondition p)),
        ⟨clock, ((Pool.empty limit).run requests).2.database.withFaults faults⟩)
    | .ok table =>
      Written ⟨.standard, typing⟩ table r
        ⟨clock, ((Pool.empty limit).run requests).2.database.withFaults faults⟩
        (write ⟨.standard, typing⟩ o r
          ⟨clock, ((Pool.empty limit).run requests).2.database.withFaults faults⟩).1
        (write ⟨.standard, typing⟩ o r
          ⟨clock, ((Pool.empty limit).run requests).2.database.withFaults faults⟩).2 := by
  have well : (((Pool.empty limit).run requests).2.database.withFaults faults).tables.WellFormed :=
    Pool.wellFormed_reachable limit requests
  generalize ((Pool.empty limit).run requests).2.database.withFaults faults = db at well ⊢
  cases named : o.table .standard with
  | error p => simp [write, named]
  | ok table =>
    have spelled : ∀ name ∈ (r.renamed .standard).map Prod.fst, Sql.isWord name = true := by
      intro name held
      obtain ⟨entry, among, rfl⟩ := List.mem_map.1 held
      obtain ⟨field, -, rfl⟩ := List.mem_map.1 among
      exact Sql.standard_is_word field.1
    have written := written_tryWrite (m := ⟨.standard, typing⟩) (s := ⟨clock, db⟩)
      (word_of_table named) spelled well
    simpa only [write, named] using written

end Site
end RecordSink
