import RecordSink.Database.Catalog
import RecordSink.Proofs.Sql.Spelling
import RecordSink.Proofs.Table.Keys

/-! What statements and commits do to the tables of a database, one name at a time. A statement
leaves the table under a name alone, creates it or changes it; a commit adds rows to it that are
made for its columns. -/
namespace RecordSink

/-- What a statement makes of the table under a name. -/
inductive Alters (name : String) : Option Table → Table → Prop where
  | created (named : Sql.isName name = true) (oneKey : columns.countP Column.primaryKey ≤ 1)
      (words : ∀ c ∈ columns, Sql.isName c.name = true) (made : Table.create columns = .ok t) :
      Alters name none t
  | changed (change : t.Change u) : Alters name (some t) u

/-- What one request makes of the table under a name. -/
inductive Becomes (name : String) : Option Table → Option Table → Prop where
  | same (held : Option Table) : Becomes name held held
  | altered (alters : Alters name held u) : Becomes name held (some u)
  | grown (rows : List Row) (made : ∀ row ∈ rows, ∃ values, t.rowOf values = .ok row) :
      Becomes name (some t) (some (t.grow rows))

namespace Catalog

variable {c d : Catalog} {name other : String} {t u : Table} {s : StagedRow}
variable {staged : List StagedRow}

theorem table_ok_iff : c.table name = .ok t ↔ c.get? name = some t := by
  unfold table
  cases c.get? name <;> simp

/-- No two tables have the same name. -/
def OnceEach (c : Catalog) : Prop :=
  (c.entries.map Prod.fst).Nodup

theorem mem_entries_iff (once : c.OnceEach) : (name, t) ∈ c.entries ↔ c.get? name = some t :=
  ⟨lookup_of_mem once, mem_of_lookup⟩

/-! ## Statements -/

theorem create_ok_iff {ifNotExists : Bool} {columns : List Column} :
    c.create name ifNotExists columns = .ok d ↔
      ((c.get? name).isSome = true ∧ ifNotExists = true ∧ c = d) ∨
      (c.get? name = none ∧ columns.countP Column.primaryKey ≤ 1 ∧
        ∃ t, Table.create columns = .ok t ∧ c.set name t = d) := by
  unfold create
  cases c.get? name with
  | some t => cases ifNotExists <;> simp
  | none =>
    by_cases several : 1 < columns.countP Column.primaryKey
    · simp [several, Nat.not_le_of_lt several]
    · simp [several, bind_ok_iff, Nat.le_of_not_lt several]

theorem addColumn_ok_iff {column : Column} :
    c.addColumn name column = .ok d ↔ ∃ t, c.get? name = some t ∧ column.primaryKey = false ∧
      ∃ u, t.addColumn column = .ok u ∧ c.set name u = d := by
  cases key : column.primaryKey <;> simp [addColumn, bind_ok_iff, table_ok_iff, key]

theorem dropColumn_ok_iff :
    c.dropColumn name other = .ok d ↔ ∃ t, c.get? name = some t ∧
      ∃ u, t.dropColumn other = .ok u ∧ c.set name u = d := by
  simp [dropColumn, bind_ok_iff, table_ok_iff]

theorem deleteRows_ok_iff {limit : Option Nat} {n : Nat} :
    c.deleteRows name limit = .ok (n, d) ↔ ∃ t, c.get? name = some t ∧
      (t.deleteRows limit).1 = n ∧ c.set name (t.deleteRows limit).2 = d := by
  simp [deleteRows, bind_ok_iff, table_ok_iff]

/-- A statement of names changes no table or alters one. -/
private theorem set_of_apply {statement : Sql.Statement} {n : Nat}
    (names : ∀ n ∈ statement.names, Sql.isName n = true)
    (applied : c.apply statement = .ok (n, d)) :
    d = c ∨ ∃ name u, d = c.set name u ∧ Alters name (c.get? name) u := by
  cases statement with
  | createTable name ifNotExists columns =>
    simp only [apply, map_ok_iff, mapError_ok_iff, Prod.mk.injEq] at applied
    obtain ⟨d, created, -, rfl⟩ := applied
    obtain ⟨-, -, rfl⟩ | ⟨absent, oneKey, t, made, rfl⟩ := create_ok_iff.1 created
    · exact .inl rfl
    · simp only [Sql.Statement.names, List.forall_mem_cons, List.forall_mem_map] at names
      exact .inr ⟨name, t, rfl, absent ▸ .created names.1 oneKey names.2 made⟩
  | addColumn name column =>
    simp only [apply, map_ok_iff, mapError_ok_iff, Prod.mk.injEq] at applied
    obtain ⟨d, added, -, rfl⟩ := applied
    obtain ⟨t, held, plain, u, gained, rfl⟩ := addColumn_ok_iff.1 added
    simp only [Sql.Statement.names, List.forall_mem_cons] at names
    exact .inr ⟨name, u, rfl, held ▸ .changed (.gained plain names.2.1 gained)⟩
  | dropColumn name column =>
    simp only [apply, map_ok_iff, mapError_ok_iff, Prod.mk.injEq] at applied
    obtain ⟨d, dropped, -, rfl⟩ := applied
    obtain ⟨t, held, u, lost, rfl⟩ := dropColumn_ok_iff.1 dropped
    exact .inr ⟨name, u, rfl, held ▸ .changed (.lost lost)⟩
  | insert => cases applied
  | delete name limit =>
    obtain ⟨t, held, -, rfl⟩ := deleteRows_ok_iff.1 (mapError_ok_iff.1 applied)
    exact .inr ⟨name, _, rfl, held ▸ .changed (.emptied limit)⟩
  | truncate name =>
    obtain ⟨t, held, -, rfl⟩ := deleteRows_ok_iff.1 (mapError_ok_iff.1 applied)
    exact .inr ⟨name, _, rfl, held ▸ .changed (.emptied none)⟩

/-- A statement of names leaves the table under a name alone or alters it. -/
theorem alters_of_apply {statement : Sql.Statement} {n : Nat}
    (names : ∀ n ∈ statement.names, Sql.isName n = true)
    (applied : c.apply statement = .ok (n, d)) (other : String) :
    d.get? other = c.get? other ∨ ∃ u, d.get? other = some u ∧ Alters other (c.get? other) u := by
  obtain rfl | ⟨name, u, rfl, alters⟩ := set_of_apply names applied
  · exact .inl rfl
  · rw [get?_set]
    by_cases same : other = name
    · subst same
      exact .inr ⟨u, if_pos rfl, alters⟩
    · exact .inl (if_neg same)

theorem becomes_of_apply {statement : Sql.Statement} {n : Nat}
    (names : ∀ n ∈ statement.names, Sql.isName n = true)
    (applied : c.apply statement = .ok (n, d)) (other : String) :
    Becomes other (c.get? other) (d.get? other) := by
  rcases alters_of_apply names applied other with same | ⟨u, there, alters⟩
  · exact same ▸ .same _
  · exact there ▸ .altered alters

theorem onceEach_of_apply {statement : Sql.Statement} {n : Nat} (once : c.OnceEach)
    (names : ∀ n ∈ statement.names, Sql.isName n = true)
    (applied : c.apply statement = .ok (n, d)) : d.OnceEach := by
  obtain rfl | ⟨name, u, rfl, -⟩ := set_of_apply names applied
  · exact once
  · exact Entries.nodup_put name u once

/-! ## Staged rows -/

theorem rowFor_ok_iff {row : Row} :
    c.rowFor s = .ok row ↔ ∃ t, c.get? s.table = some t ∧ t.rowOf s.values = .ok row ∧
      ∀ key, t.keyOf row = some key → t.hasKey key = false := by
  simp only [rowFor, bind_ok_iff, table_ok_iff]
  constructor
  · rintro ⟨t, held, made, fits, kept⟩
    cases keyed : t.keyOf made with
    | none =>
      simp only [keyed, pure_ok, Except.ok.injEq] at kept
      subst kept
      exact ⟨t, held, fits, by simp [keyed]⟩
    | some key =>
      cases taken : t.hasKey key <;> simp [keyed, taken] at kept
      subst kept
      exact ⟨t, held, fits, by simp [keyed, taken]⟩
  · rintro ⟨t, held, fits, fresh⟩
    refine ⟨t, held, row, fits, ?_⟩
    cases keyed : t.keyOf row with
    | none => rfl
    | some key => simp [fresh key keyed]

/-- A row is refused for its key only if it is made and its table has the key. -/
theorem rowFor_repeatedKey {key : Value} (refused : c.rowFor s = .error (.repeatedKey key name)) :
    ∃ t row, c.get? s.table = some t ∧ t.rowOf s.values = .ok row ∧ t.keyOf row = some key ∧
      t.hasKey key = true := by
  unfold rowFor at refused
  cases held : c.get? s.table with
  | none =>
    rw [table, held, error_bind] at refused
    cases refused
  | some t =>
    rw [table_ok_iff.2 held, ok_bind] at refused
    cases made : t.rowOf s.values with
    | error m =>
      rw [made, error_bind] at refused
      cases refused
      exact absurd made (Table.rowOf_ne_repeatedKey _ _ _)
    | ok row =>
      rw [made, ok_bind] at refused
      cases keyed : t.keyOf row with
      | none =>
        rw [keyed] at refused
        cases refused
      | some own =>
        cases taken : t.hasKey own with
        | false => simp [keyed, taken] at refused
        | true =>
          simp only [keyed, taken, if_true, throw_error, Except.error.injEq,
            Mismatch.repeatedKey.injEq] at refused
          obtain ⟨rfl, -⟩ := refused
          exact ⟨t, row, rfl, made, keyed, taken⟩

theorem checkStaging_ok_iff :
    c.checkStaging staged s = .ok () ↔ ∃ t row, c.get? s.table = some t ∧
      t.rowOf s.values = .ok row ∧ ∀ key, t.keyOf row = some key →
        t.hasKey key = false ∧ ∀ e ∈ staged, stagedHasKey s.table t key e = false := by
  simp only [checkStaging, bind_ok_iff, table_ok_iff]
  constructor
  · rintro ⟨t, held, row, fits, kept⟩
    refine ⟨t, row, held, fits, fun key keyed => ?_⟩
    cases taken : t.hasKey key <;>
      cases twice : staged.any (stagedHasKey s.table t key) <;> simp [keyed, taken, twice] at kept
    exact ⟨rfl, by simpa using twice⟩
  · rintro ⟨t, row, held, fits, fresh⟩
    refine ⟨t, held, row, fits, ?_⟩
    cases keyed : t.keyOf row with
    | none => rfl
    | some key =>
      obtain ⟨free, unseen⟩ := fresh key keyed
      simpa [free] using unseen

/-- With nothing staged yet, staging a row checks just what committing it checks. -/
theorem checkStaging_nil : c.checkStaging [] s = (c.rowFor s).map fun _ => () := by
  unfold checkStaging rowFor
  cases c.table s.table with
  | error m => rfl
  | ok t =>
    simp only [ok_bind]
    cases t.rowOf s.values with
    | error m => rfl
    | ok row =>
      simp only [ok_bind]
      cases t.keyOf row with
      | none => rfl
      | some key => cases taken : t.hasKey key <;> simp [taken, Except.map]

theorem commit_singleton : c.commit [s] = (c.rowFor s).map fun row => c.appendRow s.table row := by
  unfold commit
  cases made : c.rowFor s <;> simp [made, Except.map]

/-- The rows among these that are for the table of a name. -/
def rowsFor (name : String) (made : List (String × Row)) : List Row :=
  made.filterMap fun (table, row) => if table = name then some row else none

theorem rowsFor_cons (entry : String × Row) (made : List (String × Row)) :
    rowsFor name (entry :: made) =
      if entry.1 = name then entry.2 :: rowsFor name made else rowsFor name made := by
  by_cases same : entry.1 = name <;> simp [rowsFor, same]

/-- Rows that staged rows make, one for one. -/
def Makes (c : Catalog) (staged : List StagedRow) (made : List (String × Row)) : Prop :=
  List.Forall₂ (fun s m => m.1 = s.table ∧ c.rowFor s = .ok m.2) staged made

/-- The rows for a table are those that its staged rows make. -/
theorem Makes.mem_iff {made : List (String × Row)} {row : Row} (makes : c.Makes staged made) :
    row ∈ rowsFor name made ↔ ∃ s ∈ staged, s.table = name ∧ c.rowFor s = .ok row := by
  induction makes with
  | nil => simp [rowsFor]
  | @cons s entry staged made head tail ih =>
    rw [rowsFor_cons, ← head.1.symm]
    by_cases same : entry.1 = name
    · simp [same, ih, ← head.1, head.2, @eq_comm _ row]
    · simp [same, ih, ← head.1]

theorem Makes.made_of_mem {made : List (String × Row)} (makes : c.Makes staged made)
    (held : s ∈ staged) : ∃ row, c.rowFor s = .ok row := by
  induction makes with
  | nil => cases held
  | @cons e entry staged made head tail ih =>
    rcases List.mem_cons.1 held with rfl | later
    · exact ⟨entry.2, head.2⟩
    · exact ih later

/-- What holds of every two rows for a table, in order, holds of the staged rows that make them. -/
theorem Makes.pairwise_iff {made : List (String × Row)} {R : Row → Row → Prop}
    (makes : c.Makes staged made) : (rowsFor name made).Pairwise R ↔
      staged.Pairwise fun e s => e.table = name → s.table = name →
        ∀ a b, c.rowFor e = .ok a → c.rowFor s = .ok b → R a b := by
  induction makes with
  | nil => simp [rowsFor]
  | @cons s entry staged made head tail ih =>
    rw [rowsFor_cons, List.pairwise_cons, ← ih]
    by_cases same : entry.1 = name
    · rw [if_pos same, List.pairwise_cons]
      refine and_congr_left fun _ =>
        ⟨fun first e held _ named a b made made' => ?_, fun each b held => ?_⟩
      · rw [head.2] at made
        cases made
        exact first b ((Makes.mem_iff tail).2 ⟨e, held, named, made'⟩)
      · obtain ⟨e, there, named, made'⟩ := (Makes.mem_iff tail).1 held
        exact each e there (head.1.symm.trans same) named _ b head.2 made'
    · rw [if_neg same]
      exact ⟨fun rest => ⟨fun e _ named => absurd (head.1.trans named) same, rest⟩, And.right⟩

theorem appendRow_eq_set {row : Row} (held : c.get? name = some t) :
    c.appendRow name row = c.set name (t.grow [row]) := by
  rw [appendRow, held]
  rfl

private theorem get?_appendRow {row : Row} :
    (c.appendRow name row).get? other =
      (c.get? other).map fun t => t.grow (rowsFor other [(name, row)]) := by
  unfold appendRow
  by_cases same : other = name
  · subst same
    cases found : c.get? other with
    | none => simp [found]
    | some t => simp [get?_set, rowsFor, Table.append, Table.grow]
  · have none_for : rowsFor other [(name, row)] = [] := by simp [rowsFor, Ne.symm same]
    cases c.get? name with
    | none => simp [none_for, Table.grow]
    | some t => simp [get?_set, same, none_for, Table.grow]

private theorem get?_foldl_appendRow (made : List (String × Row)) :
    (made.foldl (fun c (name, row) => c.appendRow name row) c).get? other =
      (c.get? other).map fun t => t.grow (rowsFor other made) := by
  induction made generalizing c with
  | nil => simp [rowsFor, Table.grow]
  | cons entry made ih =>
    rw [List.foldl_cons, ih, get?_appendRow, Option.map_map]
    simp only [rowsFor_cons, Function.comp_def, Table.grow, List.append_assoc]
    split <;> rfl

/-- A commit makes all rows or none, and each table gets the rows that are for it, in order. -/
theorem get?_commit (committed : c.commit staged = .ok d) :
    ∃ made, c.Makes staged made ∧ ∀ name, d.get? name =
      (c.get? name).map fun t => t.grow (rowsFor name made) := by
  obtain ⟨made, rows, appended⟩ := bind_ok_iff.1 committed
  cases appended
  refine ⟨made, (mapM_ok_iff.1 rows).imp fun s m built => ?_, fun name => get?_foldl_appendRow made⟩
  obtain ⟨row, fits, same⟩ := bind_ok_iff.1 built
  cases same
  exact ⟨rfl, fits⟩

theorem onceEach_of_commit (once : c.OnceEach) (committed : c.commit staged = .ok d) :
    d.OnceEach := by
  obtain ⟨made, -, appended⟩ := bind_ok_iff.1 committed
  cases appended
  clear committed
  induction made generalizing c with
  | nil => exact once
  | cons entry made ih =>
    obtain ⟨name, row⟩ := entry
    have kept : (c.appendRow name row).OnceEach := by
      unfold appendRow
      cases c.get? name with
      | none => exact once
      | some t => exact Entries.nodup_put _ _ once
    exact ih kept

/-- A commit adds rows to every table that are made for its columns. -/
theorem becomes_of_commit (committed : c.commit staged = .ok d) (name : String) :
    Becomes name (c.get? name) (d.get? name) := by
  obtain ⟨made, makes, after⟩ := get?_commit committed
  rw [after]
  cases held : c.get? name with
  | none => exact .same none
  | some t =>
    refine .grown _ fun row found => ?_
    obtain ⟨s, -, same, made⟩ := makes.mem_iff.1 found
    obtain ⟨u, there, fits, -⟩ := rowFor_ok_iff.1 made
    rw [same, held] at there
    cases there
    exact ⟨s.values, fits⟩

end Catalog
end RecordSink
