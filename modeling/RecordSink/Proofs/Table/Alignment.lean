import RecordSink.Proofs.Table.Changes
import RecordSink.Proofs.Table.Keys

/-! Tables brought in line with values. A column of the right type is left alone, a missing one is
added, and one of another type is dropped and added again. Column after column this comes to one
table: each named column has the type of its value and has kept its cells exactly if it had that
type before, and everything else is as it was. -/
namespace RecordSink.Table

/-- The column that is made for a value of this name. -/
def columnFor (name : String) (value : Value) : Column :=
  .plain name (Typing.standard value.kind)

/-- A table and what it is once it was brought in line with values. -/
structure Aligned (t : Table) (values : NamedValues) (u : Table) : Prop where
  well : u.WellFormed
  rows : u.rows.length = t.rows.length
  keyed : u.keyColumn? = t.keyColumn?
  columns : ∀ name, u.column? name =
    match values.lookup name with
    | some v => some (columnFor name v)
    | none => t.column? name
  cells : ∀ i, i < t.rows.length → ∀ name, u.cell? i name =
    match values.lookup name with
    | some v => if t.column? name = some (columnFor name v) then t.cell? i name else some none
    | none => t.cell? i name

variable {t u w : Table} {values : NamedValues} {name : String} {v : Value} {c : Column}

theorem aligned_nil (well : t.WellFormed) : t.Aligned [] t :=
  ⟨well, rfl, rfl, fun _ => rfl, fun _ _ _ => rfl⟩

/-- A column of the right type is in line. -/
theorem aligned_kept (well : t.WellFormed) (held : t.column? name = some (columnFor name v)) :
    t.Aligned [(name, v)] t := by
  refine ⟨well, rfl, rfl, fun other => ?_, fun i within other => ?_⟩ <;>
    rw [lookup_cons] <;> by_cases same : other = name
  · subst same
    simpa using held
  · simp [same]
  · subst same
    simp [held]
  · simp [same]

/-- A missing column is added. -/
theorem aligned_added (well : t.WellFormed) (named : Sql.isName name = true)
    (absent : t.column? name = none) (added : t.addColumn (columnFor name v) = .ok u) :
    t.Aligned [(name, v)] u := by
  have rows : u.rows.length = t.rows.length := by
    obtain ⟨-, -, rfl⟩ := addColumn_ok_iff.1 added
    exact List.length_map _
  have column_named : Sql.isName (columnFor name v).name = true := named
  refine ⟨wellFormed_addColumn well rfl column_named added, rows,
    keyColumn?_change (.gained rfl column_named added), fun other => ?_, fun i within other => ?_⟩
  · rw [column?_addColumn added, lookup_cons]
    by_cases same : other = name
    · subst same
      simp [columnFor, Column.plain]
    · simp [columnFor, Column.plain, same]
  · rw [cell?_addColumn well rfl column_named added, lookup_cons]
    by_cases same : other = name
    · subst same
      simp [columnFor, Column.plain, absent, within]
    · simp [columnFor, Column.plain, same]

/-- A column of another type is dropped and added again, and is empty then. -/
theorem aligned_replaced (well : t.WellFormed) (named : Sql.isName name = true)
    (other_type : t.column? name ≠ some (columnFor name v)) (dropped : t.dropColumn name = .ok u)
    (added : u.addColumn (columnFor name v) = .ok w) : t.Aligned [(name, v)] w := by
  have narrow := wellFormed_dropColumn well dropped
  have gone : u.column? name = none := by rw [column?_dropColumn well dropped, if_pos rfl]
  have again := aligned_added narrow named gone added
  have rows : u.rows.length = t.rows.length := by
    obtain ⟨c, -, -, rfl⟩ := dropColumn_ok_iff.1 dropped
    exact List.length_map _
  refine ⟨again.well, again.rows.trans rows, again.keyed.trans (keyColumn?_change (.lost dropped)),
    fun other => ?_, fun i within other => ?_⟩
  · rw [again.columns, lookup_cons, column?_dropColumn well dropped]
    by_cases same : other = name <;> simp [same]
  · rw [again.cells i (rows ▸ within), lookup_cons, cell?_dropColumn well dropped]
    by_cases same : other = name
    · subst same
      simp [gone, other_type]
    · simp [same]

/-- Tables are brought in line with one value after the other. -/
theorem Aligned.cons (first : t.Aligned [(name, v)] u) (rest : u.Aligned values w)
    (fresh : name ∉ values.map Prod.fst) : t.Aligned ((name, v) :: values) w := by
  have unnamed : values.lookup name = none := lookup_eq_none_iff.2 fresh
  refine ⟨rest.well, rest.rows.trans first.rows, rest.keyed.trans first.keyed, fun other => ?_,
    fun i within other => ?_⟩
  · rw [rest.columns, first.columns, lookup_cons, lookup_cons]
    by_cases same : other = name
    · subst same
      simp [unnamed]
    · simp [same]
  · rw [rest.cells i (first.rows ▸ within), first.columns, first.cells i within, lookup_cons,
      lookup_cons]
    by_cases same : other = name
    · subst same
      simp [unnamed]
    · simp [same]

end RecordSink.Table
