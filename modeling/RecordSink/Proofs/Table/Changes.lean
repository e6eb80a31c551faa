import Mathlib.Data.List.InsertIdx
import RecordSink.Proofs.Table.WellFormed

/-! What changes do to cells. Rows are counted from the front and cells named by their columns: a
new column is empty in every row, a dropped one is gone from every row, a new row holds the values
that it is made with, and no other cell changes. -/
namespace RecordSink.Table

variable {t u : Table} {c : Column} {name : String} {values : NamedValues} {row : Row}

/-! ## Columns -/

theorem column?_addColumn (added : t.addColumn c = .ok u) (other : String) :
    u.column? other = if other = c.name then some c else t.column? other := by
  obtain ⟨fresh, -, rfl⟩ := addColumn_ok_iff.1 added
  rw [column?, List.find?_append]
  by_cases same : other = c.name
  · subst same
    rw [column?] at fresh
    simp [fresh]
  · simp [column?, same, Ne.symm same]

theorem column?_dropColumn (well : t.WellFormed) (dropped : t.dropColumn name = .ok u)
    (other : String) : u.column? other = if other = name then none else t.column? other := by
  obtain ⟨c, found, -, rfl⟩ := dropColumn_ok_iff.1 dropped
  have at_position := column?_eq_getElem? ▸ found
  by_cases same : other = name
  · -- A row of empty cells loses its cell under this name with the column.
    subst same
    have wide : (t.columns.map fun _ => (none : Option Value)).length = t.columns.length :=
      List.length_map _
    have gone := cellIn_dropColumn well.distinct wide other other
    rw [if_pos rfl, List.eraseIdx_map, cellIn_map, Option.map_eq_none_iff] at gone
    exact gone.trans (if_pos rfl).symm
  · have apart : (c.name == other) = false := by
      rw [(name_of_column? found).2]
      exact beq_eq_false_iff_ne.2 (Ne.symm same)
    rw [if_neg same]
    exact find?_eraseIdx at_position apart

/-! ## Cells -/

theorem cell?_addColumn (well : t.WellFormed) (plain : c.primaryKey = false)
    (named : Sql.isName c.name = true) (added : t.addColumn c = .ok u) (i : Nat) (name : String) :
    u.cell? i name =
      if name = c.name then t.rows[i]?.map fun _ => none else t.cell? i name := by
  have after := wellFormed_addColumn well plain named added
  rw [cell?_eq after.width, cell?_eq well.width]
  obtain ⟨fresh, -, rfl⟩ := addColumn_ok_iff.1 added
  rw [List.getElem?_map]
  cases held : t.rows[i]? with
  | none => simp
  | some row =>
    have wide := well.width row (List.mem_of_getElem? held)
    have absent : cellIn t.columns row c.name = none :=
      cellIn_eq_none_of_not_mem (column?_eq_none_iff.1 fresh)
    rw [Option.map_some, Option.bind_some, cellIn_addColumn c wide absent]
    rfl

theorem cell?_dropColumn (well : t.WellFormed) (dropped : t.dropColumn name = .ok u) (i : Nat)
    (other : String) : u.cell? i other = if other = name then none else t.cell? i other := by
  have after := wellFormed_dropColumn well dropped
  rw [cell?_eq after.width, cell?_eq well.width]
  obtain ⟨c, -, -, rfl⟩ := dropColumn_ok_iff.1 dropped
  rw [List.getElem?_map]
  cases held : t.rows[i]? with
  | none => simp
  | some row =>
    have wide := well.width row (List.mem_of_getElem? held)
    exact cellIn_dropColumn well.distinct wide name other

theorem cell?_grow_of_lt {rows : List Row} {i : Nat} (earlier : i < t.rows.length) (name : String) :
    (t.grow rows).cell? i name = t.cell? i name := by
  simp only [cell?, grow, List.getElem?_append_left earlier]
  rfl

/-- A new row holds each value in the column of its name, and nothing in the other columns. -/
theorem cell?_grow_last (well : t.WellFormed) (made : t.rowOf values = .ok row) (name : String) :
    (t.grow [row]).cell? t.rows.length name =
      (t.column? name).map fun _ => values.lookup name := by
  have after : (t.grow [row]).WellFormed :=
    wellFormed_grow well fun r held => ⟨values, List.mem_singleton.1 held ▸ made⟩
  rw [cell?_eq after.width]
  simp only [grow, List.getElem?_concat_length, Option.bind_some]
  exact cellIn_rowOf made name

end RecordSink.Table
