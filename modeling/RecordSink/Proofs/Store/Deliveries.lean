import RecordSink.Proofs.Store.Fading

/-! Deliveries. Storing is best effort: every record of a batch is written, whatever became of the
records before it, and the rows that this adds are those of the stored records in their order.
Forwarding always happens, once, after the last write and with the whole batch. -/
namespace RecordSink

/-- A naming whose names are words, as names in statements have to be. -/
def Naming.Worded (naming : Naming) : Prop :=
  ∀ text, Sql.isWord (naming text) = true

theorem Naming.standard_worded : Naming.standard.Worded :=
  Sql.standard_is_word

theorem Naming.Worded.table {naming : Naming} (worded : naming.Worded) {o : Options}
    {table : String} (target : o.table naming = .ok table) : Sql.isWord table = true := by
  unfold Options.table at target
  dsimp only at target
  split at target
  · cases target
  · cases target
    exact worded _

theorem Naming.Worded.renamed {naming : Naming} (worded : naming.Worded) (r : Record) :
    ∀ name ∈ (r.renamed naming).map Prod.fst, Sql.isWord name = true := by
  intro name among
  obtain ⟨entry, there, rfl⟩ := List.mem_map.1 among
  obtain ⟨field, -, rfl⟩ := List.mem_map.1 there
  exact worded field.1

/-- The columns that storing records may add or replace. -/
def touchedBy (naming : Naming) (records : List Record) : List String :=
  records.flatMap fun r => r.touches naming

theorem keyColumn_not_touchedBy (naming : Naming) (records : List Record) :
    keyColumn ∉ touchedBy naming records := by
  intro touched
  obtain ⟨r, -, among⟩ := List.mem_flatMap.1 touched
  exact r.keyColumn_not_touched naming among

/-! ## The writes of a batch -/

namespace Site

variable {m : Mapping} {o : Options} {table : String} {s : Site}

/-- The number of records that are stored when these are written. -/
def storedOf (m : Mapping) (o : Options) (records : List Record) (s : Site) : Nat :=
  (writeAll m o records s).1.countP Outcome.isStored

/-- What becomes of a record that is written after these ones, and the site after it. -/
def writeAfter (m : Mapping) (o : Options) (before : List Record) (r : Record) (s : Site) :
    Outcome × Site :=
  write m o r (writeAll m o before s).2

/-- What writing records leaves of a database. -/
structure WroteAll (m : Mapping) (o : Options) (table : String) (records : List Record) (s : Site)
    (after : Database) : Prop where
  well : after.tables.WellFormed
  /-- There are as many more rows as records were stored. -/
  rows : after.tables.rowCount table = s.database.tables.rowCount table + storedOf m o records s
  /-- The row of each stored record stands after those of the stored records before it. It holds the
  timestamp of the attempt that stored it and the fields of the record and nothing else, of which
  the records after it may have taken what they touch. -/
  added : ∀ before r later, records = before ++ r :: later →
    (writeAfter m o before r s).1.isStored = true → ∀ name,
      after.tables.value? table (s.database.tables.rowCount table + storedOf m o before s) name =
        (r.rowValues m.naming (writeAfter m o before r s).2.clock.last).lookup name ∨
      name ∈ touchedBy m.naming later ∧ after.tables.value? table
        (s.database.tables.rowCount table + storedOf m o before s) name = none
  /-- The rows that were there before stay where they are, and lose at most what is touched. -/
  earlier : Catalog.Fades table (s.database.tables.rowCount table) (touchedBy m.naming records)
    s.database.tables after.tables
  others : ∀ other, other ≠ table → after.tables.get? other = s.database.tables.get? other
  openCount : after.openCount = s.database.openCount
  limit : after.limit = s.database.limit

theorem wrote_write (worded : m.naming.Worded) (target : o.table m.naming = .ok table) (r : Record)
    (well : s.database.tables.WellFormed) :
    s.database.Wrote table (write m o r s).1.isStored
      (r.rowValues m.naming (write m o r s).2.clock.last) (r.touches m.naming)
      (write m o r s).2.database := by
  have attempts : Attempts m table r 1 maxRetries s _ _ _ := attempts_tryWrite 1 maxRetries s
  have wrote := attempts.wrote (worded.table target) (worded.renamed r) well
  simpa only [write, target] using wrote

theorem storedOf_nil (s : Site) : storedOf m o [] s = 0 := by
  rw [storedOf, writeAll_nil, List.countP_nil]

theorem storedOf_cons (r : Record) (rest : List Record) (s : Site) :
    storedOf m o (r :: rest) s =
      (if (write m o r s).1.isStored then 1 else 0) + storedOf m o rest (write m o r s).2 := by
  rw [storedOf, writeAll_cons, List.countP_cons, Nat.add_comm, storedOf]

theorem writeAfter_nil (r : Record) (s : Site) : writeAfter m o [] r s = write m o r s := by
  rw [writeAfter, writeAll_nil]

theorem writeAfter_cons (first : Record) (before : List Record) (r : Record) (s : Site) :
    writeAfter m o (first :: before) r s = writeAfter m o before r (write m o first s).2 := by
  rw [writeAfter, writeAll_cons, writeAfter]

theorem wroteAll_writeAll (worded : m.naming.Worded) (target : o.table m.naming = .ok table)
    (records : List Record) (well : s.database.tables.WellFormed) :
    WroteAll m o table records s (writeAll m o records s).2.database := by
  induction records generalizing s with
  | nil =>
    refine ⟨well, rfl, fun before r later split => ?_, .refl _, fun _ _ => rfl, rfl, rfl⟩
    exact absurd split.symm (List.append_ne_nil_of_right_ne_nil _ (List.cons_ne_nil _ _))
  | cons r rest ih =>
    have first := wrote_write worded target r well
    have more := ih first.well
    rw [writeAll_cons]
    have rows : (write m o r s).2.database.tables.rowCount table =
        s.database.tables.rowCount table + if (write m o r s).1.isStored then 1 else 0 := first.rows
    refine ⟨more.well, ?_, fun before r' later split stored name => ?_, ?_, fun other apart => ?_,
      more.openCount.trans first.openCount, more.limit.trans first.limit⟩
    · rw [storedOf_cons, more.rows, rows, Nat.add_assoc]
    · cases before with
      | nil =>
        -- The row of the first record was the last one, and the others may have touched it since.
        obtain ⟨rfl, rfl⟩ := List.cons.inj split
        rw [writeAfter_nil] at stored ⊢
        rw [storedOf_nil, Nat.add_zero]
        have there : s.database.tables.rowCount table <
            (write m o r s).2.database.tables.rowCount table := by
          rw [rows, if_pos stored]
          exact Nat.lt_succ_self _
        exact (more.earlier _ there name).imp_left fun same => same.trans (first.added stored name)
      | cons d before =>
        obtain ⟨rfl, rfl⟩ := List.cons.inj split
        rw [writeAfter_cons] at stored ⊢
        have added := more.added before r' later rfl stored name
        rw [rows, Nat.add_assoc, ← storedOf_cons] at added
        exact added
    · have here := first.earlier.mono (Nat.le_refl _)
        (List.subset_append_left _ (touchedBy m.naming rest))
      have since := more.earlier.mono (rows ▸ Nat.le_add_right ..)
        (List.subset_append_right (r.touches m.naming) _)
      exact here.trans since
    · exact (more.others other apart).trans (first.others other apart)

end Site

/-! ## Calls of an emitter -/

variable {σ : Type}

/-- A call of an emitter: the batch that it was given, and the tables that it found. -/
structure Emission where
  batch : List Record
  tables : Catalog

/-- The emitter with a log of its calls, also of those that fail. -/
def Emitter.logged (emit : Emitter σ) : Emitter (σ × List Emission) :=
  fun batch tables (downstream, log) =>
    match emit batch tables downstream with
    | .ok () after => .ok () (after, log ++ [⟨batch, tables⟩])
    | .error e after => .error e (after, log ++ [⟨batch, tables⟩])

/-- The store with its emitter logged, whose log is this one so far. -/
def Store.logged (s : Store σ) (log : List Emission) : Store (σ × List Emission) :=
  ⟨s.mapping, s.options, s.scheduler, s.clock, s.emit.logged, (s.downstream, log)⟩

theorem Store.forward_eq (emit : Emitter σ) (batch : List Record) (tables : Catalog)
    (downstream : σ) :
    forward emit batch tables downstream = reached (emit batch tables downstream) := by
  unfold forward
  cases emit batch tables downstream <;> rfl

/-- Forwarding calls the emitter once. -/
theorem Store.forward_logged (emit : Emitter σ) (batch : List Record) (tables : Catalog)
    (downstream : σ) (log : List Emission) : forward emit.logged batch tables (downstream, log) =
      (forward emit batch tables downstream, log ++ [⟨batch, tables⟩]) := by
  dsimp only [forward, Emitter.logged]
  cases emit batch tables downstream <;> rfl

/-! ## Deliveries -/

/-- A call that a delivery makes. -/
inductive Call where
  | write (r : Record)
  | emit (batch : List Record)

/-- How far a delivery has come. -/
structure Delivery (σ : Type) where
  /-- What became of the records that were written. -/
  outcomes : List Outcome
  store : Store σ
  database : Database

namespace Delivery

/-- The delivery after a call. A record is written into the table of the options that the store has
then; the emitter finds the tables as they are then, and may fail. -/
def after (d : Delivery σ) : Call → Delivery σ
  | .write r =>
    let (outcome, site) := Site.write d.store.mapping d.store.options r ⟨d.store.clock, d.database⟩
    ⟨d.outcomes ++ [outcome], { d.store with clock := site.clock }, site.database⟩
  | .emit batch =>
    { d with store := { d.store with
        downstream := reached (d.store.emit batch d.database.tables d.store.downstream) } }

def run (d : Delivery σ) (calls : List Call) : Delivery σ :=
  calls.foldl after d

theorem run_writes (batch : List Record) (d : Delivery σ) :
    d.run (batch.map .write) =
      let (outcomes, site) := Site.writeAll d.store.mapping d.store.options batch
        ⟨d.store.clock, d.database⟩
      ⟨d.outcomes ++ outcomes, { d.store with clock := site.clock }, site.database⟩ := by
  induction batch generalizing d with
  | nil =>
    rw [Site.writeAll_nil]
    simp [run]
  | cons r rest ih =>
    rw [List.map_cons, run, List.foldl_cons]
    refine (ih _).trans ?_
    rw [Site.writeAll_cons]
    simp [after]

end Delivery

namespace Store

/-- The calls of a delivery: each record is written once, in the order of the batch, and after the
last of these the whole batch is forwarded once. -/
def calls (batch : List Record) : List Call :=
  batch.map .write ++ [.emit batch]

/-- What the delivery of a batch comes to. -/
structure Delivered (s : Store σ) (batch : List Record) (db : Database) : Prop where
  calls : s.deliver batch db =
    let last := Delivery.run ⟨[], s, db⟩ (calls batch)
    (report last.outcomes, last.store, last.database)
  counted : (s.deliver batch db).1.stored + (s.deliver batch db).1.abandoned = batch.length
  /-- Downstream is as the emitter has left it. It was given the batch and found the tables as the
  last write has left them, and it may have failed. -/
  forwarded : (s.deliver batch db).2.1.downstream =
    reached (s.emit batch (s.deliver batch db).2.2.tables s.downstream)
  /-- The emitter is called exactly once: with the whole batch, and when the tables are as the last
  write has left them. -/
  emitted : ∀ log, (s.logged log).deliver batch db =
    let (report, t, last) := s.deliver batch db
    (report, t.logged (log ++ [⟨batch, last.tables⟩]), last)
  /-- With a table, the rows that are added to it are those of the stored records. Names have to be
  words for this: a statement is about the words in its text, so with other names it would be about
  another table, or about none. -/
  rows : s.mapping.naming.Worded → ∀ table, s.options.table s.mapping.naming = .ok table →
    (s.deliver batch db).1.stored = Site.storedOf s.mapping s.options batch ⟨s.clock, db⟩ ∧
    Site.WroteAll s.mapping s.options table batch ⟨s.clock, db⟩ (s.deliver batch db).2.2
  /-- The key of the row of a stored record is the timestamp of the attempt that stored it. -/
  keys : s.mapping.naming.Worded → ∀ table, s.options.table s.mapping.naming = .ok table →
    ∀ before r later, batch = before ++ r :: later →
    (Site.writeAfter s.mapping s.options before r ⟨s.clock, db⟩).1.isStored = true →
    (s.deliver batch db).2.2.tables.value? table
        (db.tables.rowCount table + Site.storedOf s.mapping s.options before ⟨s.clock, db⟩)
        keyColumn =
      some (.long (Site.writeAfter s.mapping s.options before r ⟨s.clock, db⟩).2.clock.last)
  /-- Without a table, nothing is stored and nothing changes. -/
  untargeted : ∀ p, s.options.table s.mapping.naming = .error p →
    (s.deliver batch db).1.stored = 0 ∧ (s.deliver batch db).2.2 = db
  /-- Delivering two batches leaves the database as delivering them as one, and the reports add
  up. -/
  split : ∀ first rest, batch = first ++ rest →
    let (report, t, middle) := s.deliver first db
    let (report', u, last) := t.deliver rest middle
    (s.deliver batch db).1 =
        ⟨report.stored + report'.stored, report.abandoned + report'.abandoned⟩ ∧
      (s.deliver batch db).2.1.clock = u.clock ∧ (s.deliver batch db).2.2 = last

theorem report_append (first rest : List Outcome) :
    report (first ++ rest) = ⟨(report first).stored + (report rest).stored,
      (report first).abandoned + (report rest).abandoned⟩ := by
  rw [report, List.countP_append, List.countP_append, report, report]

/-- Every outcome is counted once. -/
theorem report_counts (outcomes : List Outcome) :
    (report outcomes).stored + (report outcomes).abandoned = outcomes.length := by
  have whole := List.length_eq_countP_add_countP Outcome.isStored (l := outcomes)
  rw [whole, report]
  simp

theorem writeAll_untargeted {m : Mapping} {o : Options} {p : Precondition}
    (blank : o.table m.naming = .error p) (records : List Record) (s : Site) :
    Site.storedOf m o records s = 0 ∧ (Site.writeAll m o records s).2 = s := by
  have untouched : ∀ r s, Site.write m o r s = (.abandoned 0 (.of (.precondition p)), s) := by
    intro r s
    rw [Site.write, blank]
  induction records generalizing s with
  | nil => exact ⟨rfl, rfl⟩
  | cons r rest ih =>
    rw [Site.storedOf_cons, Site.writeAll_cons, untouched]
    exact ⟨by rw [(ih s).1]; rfl, (ih s).2⟩

theorem delivered (s : Store σ) (batch : List Record) {db : Database}
    (well : db.tables.WellFormed) : s.Delivered batch db := by
  have wrote : s.mapping.naming.Worded → ∀ table, s.options.table s.mapping.naming = .ok table →
      Site.WroteAll s.mapping s.options table batch ⟨s.clock, db⟩ (s.deliver batch db).2.2 :=
    fun worded table target => Site.wroteAll_writeAll worded target batch well
  refine {
    calls := ?calls
    counted := (report_counts _).trans (Site.length_writeAll s.mapping batch _)
    forwarded := forward_eq ..
    emitted := fun log => ?emitted
    rows := fun worded table target => ⟨rfl, wrote worded table target⟩
    keys := fun worded table target before r later split stored => ?keys
    untargeted := fun p blank => ?untargeted
    split := fun first rest split => ?split }
  case calls =>
    rw [calls, Delivery.run, List.foldl_append]
    have writes := Delivery.run_writes batch ⟨[], s, db⟩
    rw [Delivery.run] at writes
    rw [writes]
    dsimp only [List.foldl_cons, List.foldl_nil, Delivery.after]
    rw [← forward_eq]
    rfl
  case emitted =>
    dsimp only [deliver, logged]
    rw [forward_logged]
  case keys =>
    rcases (wrote worded table target).added before r later split stored keyColumn with same | lost
    · rw [same, Record.rowValues, List.lookup_cons_self]
    · exact absurd lost.1 (keyColumn_not_touchedBy _ later)
  case untargeted =>
    have nothing := writeAll_untargeted blank batch ⟨s.clock, db⟩
    exact ⟨nothing.1, congrArg Site.database nothing.2⟩
  case split =>
    subst split
    have both := Site.writeAll_both s.mapping (o := s.options) first rest ⟨s.clock, db⟩
    simp only [deliver, both, report_append, and_self]

/-- **Best-effort storage, guaranteed forwarding.** In every state that requests on any connections
can lead to, whatever faults are pending and whatever becomes of forwarding. -/
theorem delivered_of_requests (limit : Nat) (requests : List Request) (faults : Faults)
    (s : Store σ) (batch : List Record) :
    s.Delivered batch (((Pool.empty limit).run requests).2.database.withFaults faults) :=
  delivered s batch (Pool.wellFormed_reachable limit requests)

/-- The table cannot be made at first, and forwarding fails. The first record is given up, and the
second one is stored all the same. Both are forwarded once, when the row is there. -/
theorem delivered_while_failing :
    let s : Store Nat := ⟨⟨.upperCased, .standard⟩, .standard "t", .idle, .start fun _ => 7,
      .failing (.of .malformedSettings), 0⟩
    let batch : List Record :=
      [⟨[("v", .integer 1)], by decide⟩, ⟨[("v", .string "x")], by decide⟩]
    let db := ((Pool.empty 1).run []).2.database.withFaults (Faults.none.inject "CREATE" 1)
    s.Delivered batch db ∧ (s.deliver batch db).1 = ⟨1, 1⟩ ∧
      ((s.logged []).deliver batch db).2.1.downstream.2.map
        (fun call => (call.batch, call.tables.rowCount "WR_T")) = [(batch, 1)] := by
  intro s batch db
  have delivered : s.Delivered batch db := delivered_of_requests 1 [] _ s batch
  refine ⟨delivered, by decide +kernel, ?_⟩
  rw [delivered.emitted []]
  decide +kernel

end Store
end RecordSink
