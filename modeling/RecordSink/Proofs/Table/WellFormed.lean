import RecordSink.Proofs.Table.Cells
import RecordSink.Sql.Name

/-! Well-formed tables. A statement changes a table in one of three ways: the table gains a column
that is no key, loses one, or loses rows from the front. Each of them keeps the table well formed
and leaves its key column alone, and so does adding rows that are made for its columns. -/
namespace RecordSink

/-- Whether a column may hold this cell: a value of its own kind, or nothing unless it is
required. -/
def Column.Allows (c : Column) : Option Value → Prop
  | some v => c.type.accepts v = true
  | none => c.required = false

namespace Table

/-- A table whose columns have distinct names and at most one key among them, and whose rows have
one cell for each column that the column allows. -/
structure WellFormed (t : Table) : Prop where
  distinct : (t.columns.map Column.name).Nodup
  oneKey : t.columns.countP Column.primaryKey ≤ 1
  named : ∀ c ∈ t.columns, Sql.isName c.name = true
  filled : ∀ row ∈ t.rows, List.Forall₂ Column.Allows t.columns row

/-- What a statement does to a table. -/
inductive Change : Table → Table → Prop where
  | gained (plain : c.primaryKey = false) (named : Sql.isName c.name = true)
      (added : t.addColumn c = .ok u) : Change t u
  | lost (dropped : t.dropColumn name = .ok u) : Change t u
  | emptied (limit : Option Nat) : Change t (t.deleteRows limit).2

/-- The table with more rows at the end. -/
def grow (t : Table) (rows : List Row) : Table :=
  { t with rows := t.rows ++ rows }

variable {t u : Table} {c : Column} {name : String} {values : NamedValues} {row : Row}

theorem WellFormed.width (well : t.WellFormed) : ∀ row ∈ t.rows, row.length = t.columns.length :=
  fun row held => (well.filled row held).length_eq.symm

/-! ## Inversions -/

theorem create_ok_iff {columns : List Column} :
    create columns = .ok t ↔ (columns.map Column.name).Nodup ∧ t = ⟨columns, []⟩ := by
  unfold create
  cases repeated : firstRepeated [] (columns.map Column.name) with
  | some name =>
    have twice : ¬(columns.map Column.name).Nodup := by
      rw [← firstRepeated_nil_eq_none_iff, repeated]
      exact Option.some_ne_none name
    simp [twice]
  | none => simp [firstRepeated_nil_eq_none_iff.1 repeated, eq_comm]

theorem column?_eq_none_iff : t.column? name = none ↔ name ∉ t.columns.map Column.name := by
  simp [column?]

theorem name_of_column? (found : t.column? name = some c) : c ∈ t.columns ∧ c.name = name :=
  ⟨List.mem_of_find?_eq_some found, by simpa using List.find?_some found⟩

theorem addColumn_ok_iff :
    t.addColumn c = .ok u ↔ t.column? c.name = none ∧ (c.notNull = true → t.rows = []) ∧
      u = ⟨t.columns ++ [c], t.rows.map fun row => row ++ [none]⟩ := by
  unfold addColumn
  cases t.column? c.name with
  | some d => simp
  | none =>
    by_cases required : c.notNull = true
    · cases t.rows <;> simp [required, eq_comm]
    · simp [required, eq_comm]

theorem dropColumn_ok_iff :
    t.dropColumn name = .ok u ↔ ∃ c, t.column? name = some c ∧ c.primaryKey = false ∧
      u = ⟨t.columns.eraseIdx (t.position name),
        t.rows.map fun row => row.eraseIdx (t.position name)⟩ := by
  unfold dropColumn
  cases t.column? name with
  | none => simp
  | some c => by_cases key : c.primaryKey = true <;> simp [key, @eq_comm _ u]

/-! ## What each change keeps -/

private theorem forall₂_eraseIdx {α β : Type} {R : α → β → Prop} {as : List α} {bs : List β}
    (each : List.Forall₂ R as bs) (i : Nat) : List.Forall₂ R (as.eraseIdx i) (bs.eraseIdx i) := by
  induction each generalizing i with
  | nil => exact .nil
  | cons head tail ih =>
    cases i with
    | zero => exact tail
    | succ i => exact .cons head (ih i)

theorem find?_eraseIdx {α : Type} {p : α → Bool} {as : List α} {i : Nat} {a : α}
    (held : as[i]? = some a) (fails : p a = false) : (as.eraseIdx i).find? p = as.find? p := by
  induction as generalizing i with
  | nil => rfl
  | cons b as ih =>
    cases i with
    | zero =>
      cases held
      rw [List.eraseIdx_cons_zero, List.find?_cons, fails]
    | succ i => rw [List.eraseIdx_cons_succ, List.find?_cons, List.find?_cons, ih held]

theorem column?_eq_getElem? : t.column? name = t.columns[t.position name]? :=
  List.find?_eq_getElem?_findIdx

theorem wellFormed_create {columns : List Column} (made : create columns = .ok t)
    (oneKey : columns.countP Column.primaryKey ≤ 1)
    (named : ∀ c ∈ columns, Sql.isName c.name = true) : t.WellFormed := by
  obtain ⟨distinct, rfl⟩ := create_ok_iff.1 made
  exact ⟨distinct, oneKey, named, by simp⟩

/-- Every row that a table with distinct column names makes suits its columns. -/
theorem allowed_of_rowOf (distinct : (t.columns.map Column.name).Nodup)
    (made : t.rowOf values = .ok row) : List.Forall₂ Column.Allows t.columns row := by
  obtain ⟨takes, rfl⟩ := rowOf_ok_iff.1 made
  rw [List.forall₂_map_right_iff, List.forall₂_same]
  intro c held
  cases given : values.lookup c.name with
  | none =>
    refine Bool.eq_false_iff.2 fun required => ?_
    have there := takes.filled c held required
    rw [given] at there
    cases there
  | some v =>
    obtain ⟨d, found, accepts⟩ := takes.typed _ (mem_of_lookup given)
    rw [column?, find?_name_of_mem distinct held] at found
    cases found
    exact accepts

theorem wellFormed_addColumn (well : t.WellFormed) (plain : c.primaryKey = false)
    (named : Sql.isName c.name = true) (added : t.addColumn c = .ok u) : u.WellFormed := by
  obtain ⟨fresh, optional, rfl⟩ := addColumn_ok_iff.1 added
  refine ⟨?_, ?_, ?_, ?_⟩
  · rw [List.map_append, List.nodup_append]
    refine ⟨well.distinct, by simp, fun a old b new => ?_⟩
    rw [List.map_singleton, List.mem_singleton] at new
    rintro rfl
    exact column?_eq_none_iff.1 fresh (new ▸ old)
  · simpa [List.countP_append, plain] using well.oneKey
  · intro d held
    rcases List.mem_append.1 held with old | new
    · exact well.named d old
    · rw [List.mem_singleton.1 new]
      exact named
  · intro row held
    obtain ⟨old, stored, rfl⟩ := List.mem_map.1 held
    have empty : c.Allows none := by
      cases notNull : c.notNull with
      | true =>
        rw [optional notNull] at stored
        cases stored
      | false => simp [Column.Allows, Column.required, notNull, plain]
    exact List.rel_append (well.filled old stored) (.cons empty .nil)

theorem wellFormed_dropColumn (well : t.WellFormed) (dropped : t.dropColumn name = .ok u) :
    u.WellFormed := by
  obtain ⟨c, -, -, rfl⟩ := dropColumn_ok_iff.1 dropped
  have rest := List.eraseIdx_sublist t.columns (t.position name)
  refine ⟨(rest.map Column.name).nodup well.distinct, Nat.le_trans rest.countP_le well.oneKey,
    fun c held => well.named c (rest.mem held), fun row held => ?_⟩
  obtain ⟨old, stored, rfl⟩ := List.mem_map.1 held
  exact forall₂_eraseIdx (well.filled old stored) _

/-- A statement keeps a table well formed. -/
theorem wellFormed_change (well : t.WellFormed) (change : t.Change u) : u.WellFormed := by
  cases change with
  | gained plain named added => exact wellFormed_addColumn well plain named added
  | lost dropped => exact wellFormed_dropColumn well dropped
  | emptied limit =>
    exact ⟨well.distinct, well.oneKey, well.named,
      fun row held => well.filled row (List.mem_of_mem_drop held)⟩

/-- Rows that are made for the columns keep a table well formed. -/
theorem wellFormed_grow {rows : List Row} (well : t.WellFormed)
    (made : ∀ row ∈ rows, ∃ values, t.rowOf values = .ok row) : (t.grow rows).WellFormed := by
  refine ⟨well.distinct, well.oneKey, well.named, fun row held => ?_⟩
  rcases List.mem_append.1 held with old | new
  · exact well.filled row old
  · obtain ⟨values, fits⟩ := made row new
    have suits := allowed_of_rowOf well.distinct fits
    exact suits

/-- A statement leaves the key column of a table alone. -/
theorem keyColumn?_change (change : t.Change u) : u.keyColumn? = t.keyColumn? := by
  cases change with
  | gained plain named added =>
    obtain ⟨-, -, rfl⟩ := addColumn_ok_iff.1 added
    simp [keyColumn?, List.find?_append, plain]
  | lost dropped =>
    obtain ⟨c, found, plain, rfl⟩ := dropColumn_ok_iff.1 dropped
    exact find?_eraseIdx (column?_eq_getElem? ▸ found) plain
  | emptied limit => rfl

/-! ## Positions -/

/-- Every position that is computed from the columns lies in the rows it is used on, those of the
table as well as those made for it; and the key of such a row is the cell at the key's position. -/
structure InRange (t : Table) : Prop where
  named : ∀ name c, t.column? name = some c →
    t.position name < t.columns.length ∧ ∀ row ∈ t.rows, t.position name < row.length
  made : ∀ values row, t.rowOf values = .ok row → row.length = t.columns.length
  keyed : ∀ c, t.keyColumn? = some c → ∀ row, row ∈ t.rows ∨ (∃ values, t.rowOf values = .ok row) →
    row[t.columns.findIdx Column.primaryKey]? = some (t.keyOf row)

private theorem keyOf_at {columns : List Column} (rows : List Row)
    (width : row.length = columns.length) (keyed : columns.find? Column.primaryKey = some c) :
    row[columns.findIdx Column.primaryKey]? = some (keyOf ⟨columns, rows⟩ row) := by
  induction columns generalizing row with
  | nil => cases keyed
  | cons d columns ih =>
    cases row with
    | nil => cases width
    | cons cell row =>
      cases key : d.primaryKey with
      | true => simp [keyOf, List.findIdx_cons, key]
      | false =>
        rw [List.find?_cons, key] at keyed
        have later := ih (by simpa using width) keyed
        simpa [keyOf, List.findIdx_cons, key] using later

theorem WellFormed.inRange (well : t.WellFormed) : t.InRange := by
  have made : ∀ values row, t.rowOf values = .ok row → row.length = t.columns.length :=
    fun values row made => (allowed_of_rowOf well.distinct made).length_eq.symm
  refine ⟨fun name c found => ?_, made, fun c keyed row source => ?_⟩
  · rw [column?_eq_getElem?] at found
    have within := (List.getElem?_eq_some_iff.1 found).1
    exact ⟨within, fun row held => well.width row held ▸ within⟩
  · refine keyOf_at t.rows ?_ keyed
    rcases source with held | ⟨values, built⟩
    · exact well.width row held
    · exact made values row built

end Table
end RecordSink
