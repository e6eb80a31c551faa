import RecordSink.Proofs.Store.Efforts
import RecordSink.Proofs.Store.Histories

/-! Reconciliations on a database where a connection is to be had and no fault strikes but at an
insert or a commit. One always succeeds: it makes the table unless it is there, and then mends it
column by column. With standard types this brings the table in line with the record. -/
namespace RecordSink

/-- Nothing is to fail but inserts and commits. -/
def Faults.Sparing (f : Faults) : Prop :=
  ∀ verb, verb ≠ "INSERT" → verb ≠ "COMMIT" → f.pending verb = 0

/-- A database that can be reshaped. -/
structure Database.Pliant (db : Database) : Prop where
  free : db.openCount < db.limit
  sparing : db.faults.Sparing

theorem Database.Calm.pliant {db : Database} (calm : db.Calm) : db.Pliant :=
  ⟨calm.free, fun verb _ _ => calm.quiet verb⟩

namespace Catalog

/-- The tables of a base, but for the one of this name, which may be missing. -/
def Apart (c base : Catalog) (table : String) (held : Option Table) : Prop :=
  ∀ name, c.get? name = if name = table then held else base.get? name

/-- Nothing but the table of this name, which may be missing. -/
def Only (c : Catalog) (table : String) (held : Option Table) : Prop :=
  ∀ name, c.get? name = if name = table then held else none

variable {c base : Catalog} {table : String} {held : Option Table} {t : Table}

theorem apart_self (c : Catalog) (table : String) : c.Apart c table (c.get? table) := by
  intro name
  by_cases same : name = table <;> simp [same]

theorem Apart.get (apart : c.Apart base table held) : c.get? table = held := by
  rw [apart, if_pos rfl]

theorem Apart.set (apart : c.Apart base table held) (u : Table) :
    (c.set table u).Apart base table (some u) := by
  intro name
  rw [get?_set, apart]
  by_cases same : name = table <;> simp [same]

theorem Apart.trans {d : Catalog} {old : Option Table} (later : d.Apart c table held)
    (apart : c.Apart base table old) : d.Apart base table held := by
  intro name
  rw [later, apart]
  by_cases same : name = table <;> simp [same]

theorem Only.get (only : c.Only table held) : c.get? table = held := by
  rw [only, if_pos rfl]

theorem Only.set (only : c.Only table held) (u : Table) : (c.set table u).Only table (some u) := by
  intro name
  rw [get?_set, only]
  by_cases same : name = table <;> simp [same]

end Catalog

theorem Table.lookup_shape (t : Table) (name : String) :
    t.shape.lookup name = (t.column? name).map Column.type := by
  unfold shape column?
  induction t.columns with
  | nil => rfl
  | cons c columns ih =>
    rw [List.map_cons, lookup_cons, List.find?_cons, ih]
    by_cases same : c.name = name
    · simp [same]
    · simp [beq_eq_false_iff_ne.2 same, Ne.symm same]

/-! ## Mending a table -/

namespace Table

/-- What is done to a table for one value: nothing if the column has its type, and otherwise the
column is added, after an old one of that name is dropped. -/
inductive Mends (typing : Typing) (name : String) (v : Value) :
    Table → List SchemaChange → Table → Prop where
  | kept (found : t.column? name = some c) (right : c.type = typing v.kind) :
      Mends typing name v t [] t
  | added (absent : t.column? name = none)
      (added : t.addColumn (.plain name (typing v.kind)) = .ok u) :
      Mends typing name v t [.addedColumn name (typing v.kind)] u
  | replaced (found : t.column? name = some c) (wrong : c.type ≠ typing v.kind)
      (dropped : t.dropColumn name = .ok u)
      (added : u.addColumn (.plain name (typing v.kind)) = .ok w) :
      Mends typing name v t [.replacedColumn name c.type (typing v.kind)] w

/-- What is done to a table for all values, one after the other. -/
inductive MendsAll (typing : Typing) : Table → NamedValues → List SchemaChange → Table → Prop where
  | nil : MendsAll typing t [] [] t
  | cons (first : Mends typing name v t changes u) (rest : MendsAll typing u values more w) :
      MendsAll typing t ((name, v) :: values) (changes ++ more) w

variable {t u : Table} {typing : Typing} {name : String} {v : Value} {values : NamedValues}
variable {changes : List SchemaChange}

theorem wellFormed_of_mends (well : t.WellFormed) (named : Sql.isName name = true)
    (mends : Mends typing name v t changes u) : u.WellFormed := by
  cases mends with
  | kept => exact well
  | added absent added => exact wellFormed_addColumn well rfl named added
  | replaced found wrong dropped added =>
    exact wellFormed_addColumn (wellFormed_dropColumn well dropped) rfl named added

/-- The columns of other names are as they were. -/
theorem column?_of_mends (well : t.WellFormed) (mends : Mends typing name v t changes u)
    {other : String} (apart : other ≠ name) : u.column? other = t.column? other := by
  cases mends with
  | kept => rfl
  | added absent added => exact (column?_addColumn added other).trans (if_neg apart)
  | replaced found wrong dropped added =>
    exact ((column?_addColumn added other).trans (if_neg apart)).trans
      ((column?_dropColumn well dropped other).trans (if_neg apart))

/-- A plain column that is mended with its standard type is in line. -/
private theorem aligned_of_mends (well : t.WellFormed) (named : Sql.isName name = true)
    (plain : ∀ c, t.column? name = some c → c = .plain name c.type)
    (mends : Mends .standard name v t changes u) : t.Aligned [(name, v)] u := by
  cases mends with
  | kept found right =>
    refine aligned_kept well ?_
    rw [found, plain _ found, right]
    rfl
  | added absent added => exact aligned_added well named absent added
  | replaced found wrong dropped added =>
    refine aligned_replaced well named (fun same => ?_) dropped added
    rw [found] at same
    cases same
    exact wrong rfl

/-- Mending plain columns with their standard types brings a table in line. -/
theorem aligned_of_mendsAll (well : t.WellFormed)
    (named : ∀ name ∈ values.map Prod.fst, Sql.isName name = true)
    (once : (values.map Prod.fst).Nodup)
    (plain : ∀ name ∈ values.map Prod.fst, ∀ c, t.column? name = some c → c = .plain name c.type)
    (mends : MendsAll .standard t values changes u) : t.Aligned values u := by
  induction mends with
  | nil => exact aligned_nil well
  | @cons name v t first u values more w mended rest ih =>
    rw [List.map_cons, List.nodup_cons] at once
    rw [List.map_cons, List.forall_mem_cons] at named plain
    refine (aligned_of_mends well named.1 plain.1 mended).cons (ih
      (wellFormed_of_mends well named.1 mended) named.2 once.2 fun other later c there => ?_) once.1
    rw [column?_of_mends well mended fun same => once.1 (same ▸ later)] at there
    exact plain.2 other later c there

end Table

/-! ## The requests -/

/-- What one statement does to a column. -/
inductive Alteration where
  /-- The column is dropped. -/
  | drop (column : String)
  /-- The column is added. -/
  | add (column : String) (type : ColumnType)
  deriving DecidableEq, Repr

namespace Alteration

/-- The column that it is about. -/
def column : Alteration → String
  | drop column => column
  | add column _ => column

/-- What is said of it if it fails. -/
def context : Alteration → String
  | drop column => "drop column " ++ column
  | add column _ => "add column " ++ column

/-- The statement. -/
def statement (table : String) : Alteration → Sql.Statement
  | drop column => .dropColumn table column
  | add column type => .addColumn table (.plain column type)

end Alteration

/-- The table after the statement. -/
def Table.alter (t : Table) : Alteration → Except Mismatch Table
  | .drop column => t.dropColumn column
  | .add column type => t.addColumn (.plain column type)

namespace Dialogue

variable {table name : String} {base : Catalog} {held : Option Table} {t u : Table} {v : Value}

private theorem metadata_quiet {link : Link} (sparing : link.database.faults.Sparing) :
    link.database.faults.strike? "METADATA" = none :=
  (Faults.strike?_eq_none_iff _ _).2 (sparing _ (by decide) (by decide))

private theorem alter_quiet {link : Link} (context : String) {s : Sql.Statement} {n : Nat}
    {tables : Catalog}
    (sparing : link.database.faults.Sparing) (reshapes : s.verb = "CREATE" ∨ s.verb = "ALTER")
    (names : ∀ n ∈ s.names, Sql.isName n = true) (complete : s.Complete)
    (applied : link.database.tables.apply s = .ok (n, tables)) :
    alter context s link = .ok () { link with database := link.database.withTables tables } := by
  have quiet : link.database.faults.pending s.verb = 0 := by
    rcases reshapes with verb | verb <;> rw [verb] <;> exact sparing _ (by decide) (by decide)
  rw [alter, execute_text_quiet names complete quiet applied]

/-- A table that is there is left alone. -/
theorem ensureTable_there (link : Link) (sparing : link.database.faults.Sparing)
    (apart : link.database.tables.Apart base table (some t)) :
    ensureTable table link = .ok false link := by
  rw [ensureTable, bind_apply, tableExists_eq, metadata_quiet sparing]
  dsimp only
  rw [apart.get]
  rfl

/-- The table is there afterwards, made if it was missing. -/
private theorem ensureTable_quiet (link : Link) (sparing : link.database.faults.Sparing)
    (table_ok : Sql.isName table = true) (apart : link.database.tables.Apart base table held) :
    ∃ tables, ensureTable table link =
        .ok held.isNone { link with database := link.database.withTables tables } ∧
      tables.Apart base table (some (held.getD .blank)) := by
  cases held with
  | some t => exact ⟨link.database.tables, ensureTable_there link sparing apart, apart⟩
  | none =>
    have created : link.database.tables.create table true [⟨keyColumn, .bigInt, true, true⟩] =
        .ok (link.database.tables.set table .blank) :=
      Catalog.create_ok_iff.2 (.inr ⟨apart.get, Nat.le_refl 1, .blank, rfl, rfl⟩)
    have applied : link.database.tables.apply (createStatement table) =
        .ok (0, link.database.tables.set table .blank) := by
      rw [createStatement, Catalog.apply, created]
      rfl
    have names : ∀ n ∈ (createStatement table).names, Sql.isName n = true := by
      simpa [createStatement, Sql.Statement.names] using ⟨table_ok, Sql.keyColumn_is_name⟩
    have ran := alter_quiet ("create table " ++ table) sparing (.inl rfl) names
      (List.cons_ne_nil _ _) applied
    refine ⟨_, ?_, apart.set .blank⟩
    rw [ensureTable, bind_apply, tableExists_eq, metadata_quiet sparing]
    dsimp only
    rw [apart.get]
    simp only [Option.isSome_none, Bool.false_eq_true, if_false, bind_apply, ran]
    rfl

theorem columns_quiet (link : Link) (sparing : link.database.faults.Sparing)
    (apart : link.database.tables.Apart base table (some t)) :
    columns table link = .ok t.shape link := by
  rw [columns_eq, metadata_quiet sparing, apart.get]
  rfl

/-- A statement that can be carried out is. -/
theorem alter_runs (a : Alteration) {link : Link} (sparing : link.database.faults.Sparing)
    (table_ok : Sql.isName table = true) (named : Sql.isName a.column = true)
    (apart : link.database.tables.Apart base table (some t)) (altered : t.alter a = .ok u) :
    ∃ tables, alter a.context (a.statement table) link =
        .ok () { link with database := link.database.withTables tables } ∧
      tables.Apart base table (some u) := by
  have names : ∀ n ∈ (a.statement table).names, Sql.isName n = true := by
    cases a <;> simpa [Alteration.statement, Sql.Statement.names, Column.plain] using ⟨table_ok, named⟩
  have applied : link.database.tables.apply (a.statement table) =
      .ok (0, link.database.tables.set table u) := by
    cases a with
    | drop column =>
      have lost := Catalog.dropColumn_ok_iff.2 ⟨t, apart.get, u, altered, rfl⟩
      rw [Alteration.statement, Catalog.apply, lost]
      rfl
    | add column type =>
      have gained := Catalog.addColumn_ok_iff.2 ⟨t, apart.get, rfl, u, altered, rfl⟩
      rw [Alteration.statement, Catalog.apply, gained]
      rfl
  have complete : (a.statement table).Complete := by cases a <;> trivial
  have verb : (a.statement table).verb = "ALTER" := by cases a <;> rfl
  exact ⟨_, alter_quiet _ sparing (.inr verb) names complete applied, apart.set u⟩

private theorem addColumn_quiet (link : Link) (type : ColumnType)
    (sparing : link.database.faults.Sparing)
    (table_ok : Sql.isName table = true) (named : Sql.isName name = true)
    (apart : link.database.tables.Apart base table (some t)) (absent : t.column? name = none) :
    ∃ tables u, addColumn table name type link =
        .ok () { link with database := link.database.withTables tables } ∧
      tables.Apart base table (some u) ∧ t.addColumn (.plain name type) = .ok u := by
  obtain ⟨u, added⟩ : ∃ u, t.alter (.add name type) = .ok u :=
    ⟨_, Table.addColumn_ok_iff.2 ⟨absent, nofun, rfl⟩⟩
  obtain ⟨tables, ran, apart'⟩ := alter_runs (.add name type) sparing table_ok named apart added
  exact ⟨tables, u, ran, apart', added⟩

private theorem dropColumn_quiet {link : Link} {c : Column}
    (sparing : link.database.faults.Sparing)
    (table_ok : Sql.isName table = true) (named : Sql.isName name = true)
    (apart : link.database.tables.Apart base table (some t)) (found : t.column? name = some c)
    (plain : c.primaryKey = false) :
    ∃ tables u, alter ("drop column " ++ name) (.dropColumn table name) link =
        .ok () { link with database := link.database.withTables tables } ∧
      tables.Apart base table (some u) ∧ t.dropColumn name = .ok u := by
  obtain ⟨u, dropped⟩ : ∃ u, t.alter (.drop name) = .ok u :=
    ⟨_, Table.dropColumn_ok_iff.2 ⟨c, found, plain, rfl⟩⟩
  obtain ⟨tables, ran, apart'⟩ := alter_runs (.drop name) sparing table_ok named apart dropped
  exact ⟨tables, u, ran, apart', dropped⟩

/-- One column is mended, if the types that were read still hold for it and it is no key. -/
private theorem ensureColumn_quiet (typing : Typing) (v : Value) {link : Link}
    {live : List (String × ColumnType)} (sparing : link.database.faults.Sparing)
    (table_ok : Sql.isName table = true) (named : Sql.isName name = true)
    (apart : link.database.tables.Apart base table (some t)) (well : t.WellFormed)
    (current : live.lookup name = (t.column? name).map Column.type)
    (optional : ∀ c, t.column? name = some c → c.primaryKey = false) :
    ∃ changes tables u, ensureColumn typing table live name v link =
        .ok changes { link with database := link.database.withTables tables } ∧
      tables.Apart base table (some u) ∧ Table.Mends typing name v t changes u := by
  unfold ensureColumn
  cases found : t.column? name with
  | none =>
    obtain ⟨tables, u, ran, apart', added⟩ := addColumn_quiet link (typing v.kind) sparing table_ok
      named apart found
    refine ⟨_, tables, u, ?_, apart', .added found added⟩
    rw [current, found]
    simp only [Option.map_none, bind_apply, ran]
    rfl
  | some c =>
    rw [current, found]
    dsimp only [Option.map_some]
    by_cases right : c.type = typing v.kind
    · rw [if_pos right]
      exact ⟨[], link.database.tables, t, rfl, apart, .kept found right⟩
    · obtain ⟨middle, u, ran, apart', dropped⟩ := dropColumn_quiet sparing table_ok named
        apart found (optional c found)
      have gone : u.column? name = none := by
        rw [Table.column?_dropColumn well dropped, if_pos rfl]
      obtain ⟨tables, w, ran', apart'', added⟩ := addColumn_quiet
        { link with database := link.database.withTables middle } (typing v.kind)
        sparing table_ok named apart' gone
      refine ⟨_, tables, w, ?_, apart'', .replaced found right dropped added⟩
      rw [if_neg right]
      simp only [bind_apply, ran, ran']
      rfl

/-- The columns are mended one after the other, each with the types of before. -/
private theorem ensureEach_quiet (typing : Typing) (link : Link)
    (live : List (String × ColumnType)) {values : NamedValues}
    (sparing : link.database.faults.Sparing) (table_ok : Sql.isName table = true)
    (named : ∀ name ∈ values.map Prod.fst, Sql.isName name = true)
    (once : (values.map Prod.fst).Nodup)
    (apart : link.database.tables.Apart base table (some t)) (well : t.WellFormed)
    (current : ∀ name ∈ values.map Prod.fst, live.lookup name = (t.column? name).map Column.type)
    (optional : ∀ name ∈ values.map Prod.fst, ∀ c, t.column? name = some c →
      c.primaryKey = false) :
    ∃ changes tables u, ensureEach typing table live values link =
        .ok changes { link with database := link.database.withTables tables } ∧
      tables.Apart base table (some u) ∧ Table.MendsAll typing t values changes u := by
  induction values generalizing link t with
  | nil => exact ⟨[], link.database.tables, t, rfl, apart, .nil⟩
  | cons entry values ih =>
    obtain ⟨name, v⟩ := entry
    rw [List.map_cons, List.nodup_cons] at once
    rw [List.map_cons, List.forall_mem_cons] at named current optional
    obtain ⟨first, middle, u, ran, apart', mends⟩ := ensureColumn_quiet typing v sparing table_ok
      named.1 apart well current.1 optional.1
    -- The columns that are left are as they were.
    have left : ∀ other ∈ values.map Prod.fst, u.column? other = t.column? other :=
      fun other later => Table.column?_of_mends well mends fun same => once.1 (same ▸ later)
    obtain ⟨rest, tables, w, ran', apart'', mends'⟩ := ih
      { link with database := link.database.withTables middle } sparing named.2 once.2 apart'
      (Table.wellFormed_of_mends well named.1 mends)
      (fun other later => left other later ▸ current.2 other later)
      (fun other later => left other later ▸ optional.2 other later)
    refine ⟨first ++ rest, tables, w, ?_, apart'', .cons mends mends'⟩
    rw [ensureEach, bind_apply, ran]
    simp only [bind_apply, ran']
    rfl

end Dialogue

/-- Bringing the columns in line succeeds if the table is there: it mends it. -/
theorem Action.ensureColumns_mends {db : Database} {table : String} {t : Table} {r : Record}
    {values : NamedValues} {naming : Naming} (typing : Typing) (pliant : db.Pliant)
    (table_ok : Sql.isName table = true) (named : r.columns naming = .ok values)
    (names : ∀ name ∈ values.map Prod.fst, Sql.isName name = true)
    (found : db.tables.get? table = some t) (well : t.WellFormed)
    (optional : ∀ name ∈ values.map Prod.fst, ∀ c, t.column? name = some c →
      c.primaryKey = false) :
    ∃ changes tables u, ensureColumns naming typing table r db =
        .ok changes (db.withTables tables) ∧
      tables.Apart db.tables table (some u) ∧ Table.MendsAll typing t values changes u := by
  have once := (List.nodup_cons.1 (Record.columns_ok named).2).2
  have connected : db.faults.pending "CONNECT" = 0 := pliant.sparing _ (by decide) (by decide)
  have apart := found ▸ Catalog.apart_self db.tables table
  obtain ⟨changes, tables, u, ran, apart', mends⟩ := Dialogue.ensureEach_quiet typing
    ⟨opened db, []⟩ t.shape pliant.sparing table_ok names once apart well
    (fun name _ => Table.lookup_shape _ name) optional
  refine ⟨changes, tables, u, ?_, apart', mends⟩
  rw [ensureColumns, named]
  change onConnection _ _ = _
  rw [onConnection_quiet pliant.free connected, bind_apply,
    Dialogue.columns_quiet ⟨opened db, []⟩ pliant.sparing apart]
  simp only [ran]
  rfl

/-- A reconciliation succeeds: it makes the table unless it is there, and mends it. -/
theorem Action.reconcile_mends {db : Database} {table : String} {held : Option Table} {r : Record}
    {values : NamedValues} {naming : Naming} (typing : Typing) (pliant : db.Pliant)
    (table_ok : Sql.isName table = true) (named : r.columns naming = .ok values)
    (names : ∀ name ∈ values.map Prod.fst, Sql.isName name = true)
    (found : db.tables.get? table = held) (well : (held.getD .blank).WellFormed)
    (optional : ∀ name ∈ values.map Prod.fst, ∀ c, (held.getD .blank).column? name = some c →
      c.primaryKey = false) :
    ∃ changes tables u, reconcile naming typing table r db =
        .ok ((if held.isNone then [.createdTable] else []) ++ changes) (db.withTables tables) ∧
      tables.Apart db.tables table (some u) ∧
      Table.MendsAll typing (held.getD .blank) values changes u := by
  have connected : db.faults.pending "CONNECT" = 0 := pliant.sparing _ (by decide) (by decide)
  obtain ⟨middle, ran, apart⟩ := Dialogue.ensureTable_quiet ⟨opened db, []⟩
    pliant.sparing table_ok (found ▸ Catalog.apart_self db.tables table)
  have first : ensureTable table db = .ok held.isNone (db.withTables middle) := by
    rw [ensureTable, onConnection_quiet pliant.free connected, ran]
    rfl
  have still : (db.withTables middle).Pliant := ⟨pliant.free, pliant.sparing⟩
  obtain ⟨changes, tables, u, second, apart', mends⟩ := ensureColumns_mends typing still table_ok
    named names apart.get well optional
  refine ⟨changes, tables, u, ?_, apart'.trans apart, mends⟩
  rw [reconcile, bind_apply, first]
  simp only [bind_apply, second]
  cases held <;> rfl

/-- With standard types it brings the table in line with the record. -/
theorem Action.reconcile_pliant {db : Database} {table : String} {held : Option Table} {r : Record}
    {values : NamedValues} (pliant : db.Pliant) (table_ok : Sql.isName table = true)
    (named : r.columns .standard = .ok values)
    (names : ∀ name ∈ values.map Prod.fst, Sql.isName name = true)
    (found : db.tables.get? table = held) (well : (held.getD .blank).WellFormed)
    (plain : ∀ name c, name ≠ keyColumn → (held.getD .blank).column? name = some c →
      c = .plain name c.type) :
    ∃ changes tables u, reconcile .standard .standard table r db =
        .ok changes (db.withTables tables) ∧
      tables.Apart db.tables table (some u) ∧ (held.getD .blank).Aligned values u := by
  obtain ⟨-, distinct⟩ := Record.columns_ok named
  obtain ⟨fresh, once⟩ := List.nodup_cons.1 distinct
  have each : ∀ name ∈ values.map Prod.fst, ∀ c, (held.getD .blank).column? name = some c →
      c = .plain name c.type := fun name among c => plain name c fun same => fresh (same ▸ among)
  obtain ⟨changes, tables, u, ran, apart, mends⟩ := reconcile_mends .standard pliant table_ok named
    names found well fun name among c there => by rw [each name among c there]; rfl
  exact ⟨_, tables, u, ran, apart, Table.aligned_of_mendsAll well names once each mends⟩

/-- On a calm database with nothing but the table of a history, nothing else is there afterwards. -/
theorem Action.reconcile_calm {db : Database} {table : String} {held : Option Table} {h : History}
    {r : Record} {values : NamedValues} (calm : db.Calm) (table_ok : Sql.isName table = true)
    (named : r.columns .standard = .ok values)
    (names : ∀ name ∈ values.map Prod.fst, Sql.isName name = true)
    (only : db.tables.Only table held) (records : (held.getD .blank).Records h) :
    ∃ changes tables u, reconcile .standard .standard table r db =
        .ok changes (db.withTables tables) ∧
      tables.Only table (some u) ∧ (held.getD .blank).Aligned values u := by
  obtain ⟨changes, tables, u, ran, apart, aligned⟩ := reconcile_pliant calm.pliant table_ok named
    names only.get records.well fun name c other there => records.plain other there
  refine ⟨changes, tables, u, ran, fun name => ?_, aligned⟩
  rw [apart, only]
  by_cases same : name = table <;> simp [same]

end RecordSink
