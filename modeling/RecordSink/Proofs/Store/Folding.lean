import RecordSink.Proofs.Store.Fading

/-! Letter case of columns. No record has two columns that differ in letter case only, or one that
differs from the key column in it only; but a column that a table has already is found by its exact
name. So it takes two records to bring a table such columns. Under whatever faults, every column
that a table has was brought by a record, and what a stored record brings stays unless an abandoned
one takes it away half way through a reconciliation. -/
namespace RecordSink

namespace Table

/-- No two columns have names that differ in letter case only. -/
def FoldsApart (t : Table) : Prop :=
  (t.columns.map fun c => Text.upper c.name).Nodup

instance (t : Table) : Decidable t.FoldsApart :=
  inferInstanceAs (Decidable (List.Nodup _))

variable {t : Table} {name other : String}

theorem isSome_column?_iff : (t.column? name).isSome = true ↔ name ∈ t.columns.map Column.name := by
  rw [← not_iff_not, Bool.not_eq_true, Option.isSome_eq_false_iff, Option.isNone_iff_eq_none,
    column?_eq_none_iff]

theorem not_foldsApart_of_names (held : (t.column? name).isSome = true)
    (held' : (t.column? other).isSome = true) (different : name ≠ other)
    (same : Text.sameFolded name other = true) : ¬ t.FoldsApart := by
  intro apart
  rw [FoldsApart, ← Function.comp_def, ← List.map_map] at apart
  exact different (List.inj_on_of_nodup_map apart (isSome_column?_iff.1 held)
    (isSome_column?_iff.1 held') (eq_of_beq same))

theorem foldsApart_of_names (well : t.WellFormed)
    (different : ∀ c ∈ t.columns, ∀ d ∈ t.columns, Text.sameFolded c.name d.name = true →
      c.name = d.name) : t.FoldsApart := by
  rw [FoldsApart, ← Function.comp_def, ← List.map_map]
  refine well.distinct.map_on fun name held other held' same => ?_
  obtain ⟨c, among, rfl⟩ := List.mem_map.1 held
  obtain ⟨d, among', rfl⟩ := List.mem_map.1 held'
  exact different c among d among' (beq_iff_eq.2 same)

end Table

namespace Record

variable {r : Record} {naming : Naming} {name other : String}

/-- Two records with columns that differ in letter case only. -/
def Clashes (naming : Naming) (r s : Record) : Prop :=
  ∃ name ∈ r.touches naming, ∃ other ∈ s.touches naming,
    name ≠ other ∧ Text.sameFolded name other = true

theorem folded_of_touches :
    ((keyColumn :: r.touches naming).map Text.upper).Nodup := by
  unfold touches
  cases named : r.columns naming with
  | ok columns => exact (columns_folded named).2
  | error p => exact List.nodup_singleton _

/-- The columns of a record differ in more than letter case from each other. -/
theorem eq_of_touches (held : name ∈ r.touches naming) (held' : other ∈ r.touches naming)
    (same : Text.sameFolded name other = true) : name = other :=
  List.inj_on_of_nodup_map folded_of_touches (.tail _ held) (.tail _ held') (eq_of_beq same)

/-- The columns of a record differ in more than letter case from the key column. -/
theorem unlike_keyColumn (held : name ∈ r.touches naming) :
    Text.sameFolded keyColumn name = false := by
  rw [Bool.eq_false_iff]
  intro same
  have equal := List.inj_on_of_nodup_map folded_of_touches (.head _) (.tail _ held) (eq_of_beq same)
  exact r.keyColumn_not_touched naming (equal ▸ held)

end Record

/-! ## One write -/

namespace Catalog

/-- The column of this name, if there is such a table and it has such a column. -/
def column? (c : Catalog) (table name : String) : Option Column :=
  (c.get? table).bind (·.column? name)

variable {table name : String} {names : List String} {a b : Catalog} {t : Table}

theorem column?_of_get? (held : a.get? table = some t) : a.column? table name = t.column? name := by
  rw [column?, held, Option.bind_some]

theorem column?_set_self (c : Catalog) (table : String) (t : Table) (name : String) :
    (c.set table t).column? table name = t.column? name :=
  column?_of_get? (by rw [get?_set, if_pos rfl])

/-- A change of shape leaves the other columns as they are. -/
theorem column?_of_reshape (well : a.WellFormed) (step : a.Reshape table names b)
    (other : name ∉ keyColumn :: names) : b.column? table name = a.column? table name := by
  rw [List.mem_cons, not_or] at other
  cases step with
  | @created t absent named made =>
    obtain ⟨-, rfl⟩ := Table.create_ok_iff.1 made
    rw [column?_set_self, column?, absent, Option.bind_none, Table.column?_eq_none_iff]
    simpa using other.1
  | gained held among named added =>
    rw [column?_set_self, Table.column?_addColumn added, column?_of_get? held]
    refine if_neg ?_
    rintro rfl
    exact other.2 among
  | lost held among dropped =>
    rw [column?_set_self, Table.column?_dropColumn (well.tables _ _ held) dropped,
      column?_of_get? held]
    refine if_neg ?_
    rintro rfl
    exact other.2 among

/-- A row more changes no column. -/
theorem column?_appendRow (held : a.get? table = some t) (row : Row) (name : String) :
    (a.appendRow table row).column? table name = a.column? table name := by
  rw [appendRow_eq_set held, column?_set_self, column?_of_get? held]
  rfl

/-- What a write of a record makes of the columns of its table. -/
structure Brings (table : String) (touched : List String) (stored : Bool) (before after : Catalog) :
    Prop where
  well : after.WellFormed
  others : ∀ other, other ≠ table → after.get? other = before.get? other
  /-- Only columns of the record come or go. -/
  columns : ∀ name, name ∉ keyColumn :: touched →
    after.column? table name = before.column? table name
  /-- All of them are there once the record is stored. -/
  present : stored = true → ∀ name ∈ touched, (after.column? table name).isSome = true

theorem Brings.elsewhere {touched : List String} {stored : Bool} {other : String}
    (brings : a.Brings table touched stored b) (apart : table ≠ other) :
    b.column? other name = a.column? other name := by
  rw [column?, brings.others other apart.symm, column?]

end Catalog

theorem Database.Reshaped.column? {table name : String} {names : List String} {a b : Database}
    (reshaped : a.Reshaped table names b) (well : a.tables.WellFormed)
    (other : name ∉ keyColumn :: names) :
    b.tables.column? table name = a.tables.column? table name :=
  @keeps _ _ _ _ (fun c => c.column? table name = a.tables.column? table name) reshaped well rfl
    fun formed step same => (Catalog.column?_of_reshape formed step other).trans same

namespace Site

variable {typing : Typing} {table : String} {o : Options} {r : Record} {s after : Site}
variable {m : Mapping} {failures : List Failure} {outcome : Outcome} {n left : Nat}

theorem Attempts.brings (word : Sql.isWord table = true)
    (spelled : ∀ name ∈ (r.renamed m.naming).map Prod.fst, Sql.isWord name = true)
    (well : s.database.tables.WellFormed)
    (attempts : Attempts m table r n left s failures outcome after) :
    s.database.tables.Brings table (r.touches m.naming) outcome.isStored after.database.tables := by
  obtain ⟨db, reshaped, ending⟩ := attempts.reshaped word spelled
  have wrote := attempts.wrote word spelled well
  refine ⟨wrote.well, wrote.others, fun name other => ?_, fun stored name touched => ?_⟩
  · have kept := reshaped.column? well other
    rcases ending with ⟨k, e, rfl, same⟩ | ⟨k, row, rfl, made, same⟩
    · rw [same, kept]
    · obtain ⟨t, held, -⟩ := Catalog.rowFor_ok_iff.1 made
      rw [same, ← kept]
      exact Catalog.column?_appendRow held row name
  · rcases ending with ⟨k, e, rfl, -⟩ | ⟨k, row, rfl, made, same⟩
    · cases stored
    · -- The row was made, so each of its values found a column.
      obtain ⟨t, held, fits, -⟩ := Catalog.rowFor_ok_iff.1 made
      obtain ⟨entry, among, rfl⟩ := List.mem_map.1 (r.touches_subset m.naming touched)
      obtain ⟨c, found, -⟩ := (Table.rowOf_ok_iff.1 fits).1.typed entry (.tail _ among)
      have there : (db.tables.appendRow table row).column? table entry.1 = some c := by
        rw [Catalog.column?_appendRow held, Catalog.column?_of_get? held, found]
      rw [same]
      exact Option.isSome_of_eq_some there

theorem brings_write (well : s.database.tables.WellFormed)
    (target : o.table .standard = .ok table) :
    s.database.tables.Brings table (r.touches .standard)
      (write ⟨.standard, typing⟩ o r s).1.isStored
      (write ⟨.standard, typing⟩ o r s).2.database.tables := by
  have written : write ⟨.standard, typing⟩ o r s =
      tryWrite ⟨.standard, typing⟩ table r 1 maxRetries s := by
    rw [write, target]
  have attempts : Attempts ⟨.standard, typing⟩ table r 1 maxRetries s _ _ _ :=
    attempts_tryWrite 1 maxRetries s
  rw [written]
  exact attempts.brings (word_of_table target) r.isWord_renamed well

end Site

/-! ## Many writes -/

/-- A record that was written to a table, and whether it was stored. -/
structure Journal.Entry where
  table : String
  record : Record
  stored : Bool

/-- A site, and what has been written there. -/
structure Journal where
  entries : List Journal.Entry
  site : Site

namespace Journal

/-- What can happen at a site: a record is written with the options in force, or faults are
injected. -/
inductive Step where
  | write (o : Options) (r : Record)
  | inject (verb : String) (n : Nat)

/-- A database without tables, where nothing was written yet. -/
def start (limit : Nat) (clock : Clock) : Journal :=
  ⟨[], clock, (Pool.empty limit).database⟩

/-- The journal after a step. Without a table to write to, nothing is written. -/
def after (typing : Typing) (j : Journal) : Step → Journal
  | .write o r =>
    let (outcome, site) := j.site.write ⟨.standard, typing⟩ o r
    match o.table .standard with
    | .ok table => ⟨j.entries ++ [⟨table, r, outcome.isStored⟩], site⟩
    | .error _ => ⟨j.entries, site⟩
  | .inject verb n => { j with site.database := j.site.database.inject verb n }

def run (typing : Typing) (j : Journal) (steps : List Step) : Journal :=
  steps.foldl (after typing) j

/-- What was written to a table. -/
def writtenTo (j : Journal) (table : String) : List Entry :=
  j.entries.filter fun e => e.table == table

/-- A site whose columns are told by what was written there. -/
structure Accounts (j : Journal) : Prop where
  well : j.site.database.tables.WellFormed
  /-- Every column was brought by a record, except for the key column. -/
  brought : ∀ table name, (j.site.database.tables.column? table name).isSome = true →
    name = keyColumn ∨ ∃ e ∈ j.writtenTo table, name ∈ e.record.touches .standard
  /-- A stored record has its columns, except for those that an abandoned one has as well. -/
  present : ∀ table, ∀ e ∈ j.writtenTo table, e.stored = true →
    ∀ name ∈ e.record.touches .standard,
      (∀ f ∈ j.writtenTo table, f.stored = false → name ∉ f.record.touches .standard) →
      (j.site.database.tables.column? table name).isSome = true

/-- How the letter case of the columns of a table goes back to what was written to it. -/
structure Folds (entries : List Entry) (t : Table) : Prop where
  /-- Columns that differ in letter case only come from two records, and neither of these has
  both. -/
  come : ∀ c ∈ t.columns, ∀ d ∈ t.columns, c.name ≠ d.name →
    Text.sameFolded c.name d.name = true → ∃ e ∈ entries, ∃ f ∈ entries,
      c.name ∈ e.record.touches .standard ∧ d.name ∉ e.record.touches .standard ∧
      d.name ∈ f.record.touches .standard ∧ c.name ∉ f.record.touches .standard
  /-- Two stored records bring such columns, unless an abandoned one has one of these as well. -/
  stay : ∀ e ∈ entries, ∀ f ∈ entries, e.stored = true → f.stored = true →
    ∀ name ∈ e.record.touches .standard, ∀ other ∈ f.record.touches .standard,
      name ≠ other → Text.sameFolded name other = true →
      (∀ g ∈ entries, g.stored = false →
        name ∉ g.record.touches .standard ∧ other ∉ g.record.touches .standard) →
      ¬ t.FoldsApart
  /-- So where all records were stored that have columns at all, the records tell. -/
  exactly : (∀ e ∈ entries, e.stored = true ∨ ∃ p, e.record.columns .standard = .error p) →
    (t.FoldsApart ↔ ∀ e ∈ entries, ∀ f ∈ entries, ¬ e.record.Clashes .standard f.record)

variable {typing : Typing} {j : Journal} {e : Entry} {site : Site} {table : String}

theorem accounts_start (limit : Nat) (clock : Clock) : (start limit clock).Accounts where
  well := Pool.wellFormed_reachable limit []
  brought table name held := by cases held
  present table e among := by cases among

private theorem writtenTo_append (site : Site) (table : String) :
    Journal.writtenTo ⟨j.entries ++ [e], site⟩ table =
      j.writtenTo table ++ if e.table == table then [e] else [] := by
  simp only [writtenTo, List.filter_append, List.filter_cons, List.filter_nil]

private theorem writtenTo_here (site : Site) :
    Journal.writtenTo ⟨j.entries ++ [e], site⟩ e.table = j.writtenTo e.table ++ [e] := by
  rw [writtenTo_append, if_pos (beq_self_eq_true _)]

private theorem writtenTo_elsewhere (site : Site) (apart : e.table ≠ table) :
    Journal.writtenTo ⟨j.entries ++ [e], site⟩ table = j.writtenTo table := by
  rw [writtenTo_append, if_neg (by simpa using apart), List.append_nil]

section Write

variable {name : String}
variable (accounts : j.Accounts)
variable (brings : j.site.database.tables.Brings e.table (e.record.touches .standard) e.stored
  site.database.tables)
include accounts brings

/-- A column that was not there before is one of the new record. -/
private theorem Accounts.brought_write
    (held : (site.database.tables.column? table name).isSome = true) : name = keyColumn ∨
      ∃ f ∈ Journal.writtenTo ⟨j.entries ++ [e], site⟩ table,
        name ∈ f.record.touches .standard := by
  by_cases here : e.table = table
  · subst here
    rw [writtenTo_here]
    by_cases own : name ∈ keyColumn :: e.record.touches .standard
    · exact (List.mem_cons.1 own).imp_right fun touched =>
        ⟨e, List.mem_append_right _ (.head _), touched⟩
    · rw [brings.columns name own] at held
      exact (accounts.brought _ _ held).imp_right fun ⟨f, among, touched⟩ =>
        ⟨f, List.mem_append_left _ among, touched⟩
  · rw [writtenTo_elsewhere site here]
    rw [brings.elsewhere here] at held
    exact accounts.brought _ _ held

/-- A column of a stored record is there, or an abandoned record has it as well. -/
private theorem Accounts.present_write {f : Entry}
    (among : f ∈ Journal.writtenTo ⟨j.entries ++ [e], site⟩ table) (stored : f.stored = true)
    (touched : name ∈ f.record.touches .standard)
    (alone : ∀ g ∈ Journal.writtenTo ⟨j.entries ++ [e], site⟩ table, g.stored = false →
      name ∉ g.record.touches .standard) :
    (site.database.tables.column? table name).isSome = true := by
  by_cases here : e.table = table
  · subst here
    rw [writtenTo_here, List.forall_mem_append, List.forall_mem_singleton] at alone
    rw [writtenTo_here, List.mem_append, List.mem_singleton] at among
    by_cases own : name ∈ e.record.touches .standard
    · -- The new record has the column too, so it is not one that was abandoned.
      have kept : e.stored = true := by
        by_contra abandoned
        exact alone.2 (Bool.eq_false_iff.2 abandoned) own
      exact brings.present kept name own
    · have other : name ∉ keyColumn :: e.record.touches .standard := by
        rw [List.mem_cons, not_or]
        refine ⟨?_, own⟩
        rintro rfl
        exact f.record.keyColumn_not_touched .standard touched
      have earlier : f ∈ j.writtenTo e.table := by
        refine among.resolve_right ?_
        rintro rfl
        exact own touched
      rw [brings.columns name other]
      exact accounts.present _ f earlier stored name touched alone.1
  · rw [writtenTo_elsewhere site here] at among alone
    rw [brings.elsewhere here]
    exact accounts.present _ f among stored name touched alone

/-- One more record accounts for the columns that come, and for those that go. -/
private theorem Accounts.write : Accounts ⟨j.entries ++ [e], site⟩ where
  well := brings.well
  brought _ _ held := accounts.brought_write brings held
  present _ _ among stored _ touched alone :=
    accounts.present_write brings among stored touched alone

end Write

theorem Accounts.after (accounts : j.Accounts) (typing : Typing) (d : Step) :
    (j.after typing d).Accounts := by
  cases d with
  | inject verb n => exact ⟨accounts.well, accounts.brought, accounts.present⟩
  | write o r =>
    cases target : o.table .standard with
    | error p =>
      have same : j.after typing (.write o r) = j := by
        simp only [Journal.after, Site.write, target]
      rw [same]
      exact accounts
    | ok table =>
      have written : j.after typing (.write o r) =
          ⟨j.entries ++ [⟨table, r, (j.site.write ⟨.standard, typing⟩ o r).1.isStored⟩],
            (j.site.write ⟨.standard, typing⟩ o r).2⟩ := by
        simp only [Journal.after, target]
      have brings : j.site.database.tables.Brings table (r.touches .standard) _ _ :=
        @Site.brings_write typing _ o r j.site accounts.well target
      rw [written]
      generalize j.site.write ⟨.standard, typing⟩ o r = done at brings ⊢
      exact accounts.write brings

theorem Accounts.run (accounts : j.Accounts) (typing : Typing) (steps : List Step) :
    (j.run typing steps).Accounts := by
  induction steps generalizing j with
  | nil => exact accounts
  | cons d rest ih => exact ih (accounts.after typing d)

section Folds

variable {t : Table} (accounts : j.Accounts) (held : j.site.database.tables.get? table = some t)
include accounts held

/-- Columns that differ in letter case only come from two records. -/
private theorem Accounts.come {c d : Column} (among : c ∈ t.columns) (among' : d ∈ t.columns)
    (different : c.name ≠ d.name) (same : Text.sameFolded c.name d.name = true) :
    ∃ e ∈ j.writtenTo table, ∃ f ∈ j.writtenTo table,
      c.name ∈ e.record.touches .standard ∧ d.name ∉ e.record.touches .standard ∧
      d.name ∈ f.record.touches .standard ∧ c.name ∉ f.record.touches .standard := by
  have origin (c : Column) (among : c ∈ t.columns) : c.name = keyColumn ∨
      ∃ e ∈ j.writtenTo table, c.name ∈ e.record.touches .standard := by
    refine accounts.brought table c.name ?_
    rw [Catalog.column?_of_get? held]
    exact Table.isSome_column?_iff.2 (List.mem_map_of_mem among)
  rcases origin c among with key | ⟨e, writ, touched⟩ <;>
    rcases origin d among' with key' | ⟨f, writ', touched'⟩
  · exact absurd (key.trans key'.symm) different
  · rw [key, Record.unlike_keyColumn touched'] at same
    cases same
  · rw [key', Text.sameFolded_comm, Record.unlike_keyColumn touched] at same
    cases same
  · exact ⟨e, writ, f, writ', touched,
      fun both => different (Record.eq_of_touches touched both same), touched',
      fun both => different (Record.eq_of_touches both touched' same)⟩

/-- Columns of stored records that differ in letter case only are still there. -/
private theorem Accounts.stay {e f : Entry} {name other : String} (among : e ∈ j.writtenTo table)
    (among' : f ∈ j.writtenTo table) (stored : e.stored = true) (stored' : f.stored = true)
    (touched : name ∈ e.record.touches .standard) (touched' : other ∈ f.record.touches .standard)
    (different : name ≠ other) (same : Text.sameFolded name other = true)
    (alone : ∀ g ∈ j.writtenTo table, g.stored = false →
      name ∉ g.record.touches .standard ∧ other ∉ g.record.touches .standard) :
    ¬ t.FoldsApart := by
  have here := accounts.present table e among stored name touched
    fun g writ abandoned => (alone g writ abandoned).1
  have there := accounts.present table f among' stored' other touched'
    fun g writ abandoned => (alone g writ abandoned).2
  rw [Catalog.column?_of_get? held] at here there
  exact Table.not_foldsApart_of_names here there different same

theorem Accounts.folds : Folds (j.writtenTo table) t where
  come _ among _ among' different same := accounts.come held among among' different same
  stay _ among _ among' stored stored' _ touched _ touched' different same alone :=
    accounts.stay held among among' stored stored' touched touched' different same alone
  exactly := by
    intro all_stored
    -- A record that has a column was not rejected, so it was stored.
    have kept : ∀ e ∈ j.writtenTo table, e.stored = false →
        ∀ name, name ∉ e.record.touches .standard := by
      rintro e among abandoned name
      obtain stored | ⟨p, refused⟩ := all_stored e among
      · exact absurd (abandoned.symm.trans stored) Bool.false_ne_true
      · rw [Record.touches, refused]
        exact List.not_mem_nil
    have stored : ∀ e ∈ j.writtenTo table, ∀ name ∈ e.record.touches .standard,
        e.stored = true := by
      intro e among name touched
      by_contra abandoned
      exact kept e among (Bool.eq_false_iff.2 abandoned) name touched
    constructor
    · rintro apart e among f among' ⟨name, touched, other, touched', different, same⟩
      exact accounts.stay held among among' (stored e among name touched)
        (stored f among' other touched') touched touched' different same
        (fun g writ abandoned => ⟨kept g writ abandoned name, kept g writ abandoned other⟩) apart
    · intro none_clash
      refine Table.foldsApart_of_names (accounts.well.tables _ _ held)
        fun c among d among' same => ?_
      by_contra different
      obtain ⟨e, writ, f, writ', touched, -, touched', -⟩ :=
        accounts.come held among among' different same
      exact none_clash e writ f writ' ⟨_, touched, _, touched', different, same⟩

end Folds

/-- **Letter case is checked record by record.** Whatever records are written to a database that was
empty, with whatever options and under whatever faults, the columns of every table fold apart as far
as the records do that were written to it. -/
theorem columns_fold_as_records_do (limit : Nat) (clock : Clock) (typing : Typing)
    (steps : List Step) (table : String) (t : Table)
    (held : ((start limit clock).run typing steps).site.database.tables.get? table = some t) :
    Folds (((start limit clock).run typing steps).writtenTo table) t :=
  ((accounts_start limit clock).run typing steps).folds held

/-- A record that would clash is abandoned, as its column cannot be added. -/
theorem columns_fold_after_abandoning :
    let steps := [.write (.standard "t") ⟨[("Temp", .integer 1)], by decide⟩, .inject "alter" 1,
      .write (.standard "t") ⟨[("temp", .integer 2)], by decide⟩]
    let j := (start 1 (.start fun _ => 7)).run .standard steps
    ∃ t, j.site.database.tables.get? "WR_t" = some t ∧ t.FoldsApart ∧
      Folds (j.writtenTo "WR_t") t :=
  ⟨⟨[⟨keyColumn, .bigInt, true, true⟩, .plain "Temp" .integer],
      [[some (.long 8), some (.integer 1)]]⟩, by decide +kernel, by decide +kernel,
    columns_fold_as_records_do 1 (.start fun _ => 7) .standard _ "WR_t" _ (by decide +kernel)⟩

/-- Two records that are stored, with no fault at all, and whose columns differ in letter case
only. -/
theorem letter_cases_side_by_side :
    let steps := [.write (.standard "t") ⟨[("Temp", .integer 1)], by decide⟩,
      .write (.standard "t") ⟨[("temp", .integer 2)], by decide⟩]
    let j := (start 1 (.start fun _ => 7)).run .standard steps
    (j.site.database.tables.get? "WR_t").map
        (fun t => (t.columns.map Column.name, decide t.FoldsApart)) =
      some (["TIMESTAMP", "Temp", "temp"], false) := by
  decide +kernel

end Journal
end RecordSink
