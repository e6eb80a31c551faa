import RecordSink.Entries
import RecordSink.Proofs.Results
import RecordSink.Table

/-! Cells by the name of their column. A row is a list of cells beside the list of columns; seen by
names, adding a column adds an empty cell, dropping one removes its cell, and every other cell stays
what it was. -/
namespace RecordSink

section Lookup

variable {α : Type} {entries : Entries α} {name : String} {a : α}

theorem lookup_cons (name other : String) (a : α) (entries : Entries α) :
    ((name, a) :: entries).lookup other = if other = name then some a else entries.lookup other := by
  by_cases same : other = name
  · simp [same]
  · simp [List.lookup_cons, beq_eq_false_iff_ne.2 same, same]

theorem lookup_eq_none_iff : entries.lookup name = none ↔ name ∉ entries.map Prod.fst := by
  induction entries with
  | nil => simp
  | cons entry entries ih =>
    rw [lookup_cons, List.map_cons, List.mem_cons, not_or, ← ih]
    by_cases same : name = entry.1 <;> simp [same]

/-- What is found under a name is an entry of that name. -/
theorem mem_of_lookup (found : entries.lookup name = some a) : (name, a) ∈ entries := by
  obtain ⟨before, after, rfl, -⟩ := List.lookup_eq_some_iff.1 found
  simp

/-- Among distinct names, an entry is what is found under its name. -/
theorem lookup_of_mem (once : (entries.map Prod.fst).Nodup) (held : (name, a) ∈ entries) :
    entries.lookup name = some a := by
  obtain ⟨before, after, rfl⟩ := List.mem_iff_append.1 held
  rw [List.map_append, List.nodup_append] at once
  rw [List.lookup_eq_some_iff]
  refine ⟨before, after, rfl, fun entry earlier => ?_⟩
  simpa using (once.2.2 _ (List.mem_map_of_mem earlier) name (by simp)).symm

end Lookup

/-- The cell of a row in the column of this name, if there is such a column. -/
def cellIn (columns : List Column) (row : Row) (name : String) : Option (Option Value) :=
  ((columns.map Column.name).zip row).lookup name

variable {columns : List Column} {row : Row} {name other : String}

theorem cellIn_cons (c : Column) (cell : Option Value) :
    cellIn (c :: columns) (cell :: row) name =
      if c.name = name then some cell else cellIn columns row name := by
  rw [cellIn, List.map_cons, List.zip_cons_cons, lookup_cons]
  simp only [@eq_comm _ name c.name]
  rfl

theorem cellIn_eq_none_of_not_mem (absent : name ∉ columns.map Column.name) :
    cellIn columns row name = none := by
  induction columns generalizing row with
  | nil => rfl
  | cons c columns ih =>
    cases row with
    | nil => rfl
    | cons cell row =>
      rw [List.map_cons, List.mem_cons, not_or] at absent
      rw [cellIn_cons, if_neg (Ne.symm absent.1), ih absent.2]

/-- By position or by name, it is the same cell. -/
theorem cellIn_eq_position (width : row.length = columns.length) :
    cellIn columns row name = (columns.find? fun c => c.name == name).bind fun _ =>
      row[columns.findIdx fun c => c.name == name]? := by
  induction columns generalizing row with
  | nil => rfl
  | cons c columns ih =>
    cases row with
    | nil => cases width
    | cons cell row =>
      rw [cellIn_cons]
      by_cases same : c.name = name
      · simp [same, List.findIdx_cons]
      · rw [if_neg same, ih (by simpa using width)]
        simp [List.findIdx_cons, beq_eq_false_iff_ne.2 same]

theorem cellIn_addColumn (c : Column) (width : row.length = columns.length)
    (fresh : cellIn columns row c.name = none) :
    cellIn (columns ++ [c]) (row ++ [none]) name =
      if name = c.name then some none else cellIn columns row name := by
  have paired : cellIn (columns ++ [c]) (row ++ [none]) name =
      (cellIn columns row name).or (cellIn [c] [none] name) := by
    rw [cellIn, List.map_append, List.zip_append (by simp [width]), List.lookup_append]
    rfl
  rw [paired, cellIn_cons]
  by_cases same : name = c.name
  · subst same
    simp [fresh]
  · simp [same, Ne.symm same, cellIn]

theorem cellIn_dropColumn (distinct : (columns.map Column.name).Nodup)
    (width : row.length = columns.length) (name other : String) :
    cellIn (columns.eraseIdx (columns.findIdx fun c => c.name == name))
        (row.eraseIdx (columns.findIdx fun c => c.name == name)) other =
      if other = name then none else cellIn columns row other := by
  induction columns generalizing row with
  | nil => simp [cellIn]
  | cons c columns ih =>
    cases row with
    | nil => cases width
    | cons cell row =>
      rw [List.map_cons, List.nodup_cons] at distinct
      by_cases same : c.name = name
      · subst same
        simp only [List.findIdx_cons, beq_self_eq_true, cond_true, List.eraseIdx_cons_zero,
          cellIn_cons]
        by_cases held : other = c.name
        · rw [if_pos held, held, cellIn_eq_none_of_not_mem distinct.1]
        · rw [if_neg held, if_neg (Ne.symm held)]
      · simp only [List.findIdx_cons, beq_eq_false_iff_ne.2 same, cond_false,
          List.eraseIdx_cons_succ, cellIn_cons, ih distinct.2 (by simpa using width)]
        by_cases held : c.name = other
        · rw [if_pos held, if_pos held, if_neg fun h => same (held.trans h)]
        · rw [if_neg held, if_neg held]

/-- Names are looked up in a list of columns as they are in a row made for it. -/
theorem cellIn_map (f : Column → Option Value) :
    cellIn columns (columns.map f) name = (columns.find? fun c => c.name == name).map f := by
  induction columns with
  | nil => rfl
  | cons c columns ih =>
    rw [List.map_cons, cellIn_cons, ih, List.find?_cons]
    by_cases same : c.name = name
    · simp [same]
    · rw [if_neg same, beq_eq_false_iff_ne.2 same]

/-- Among columns with distinct names, a column is the one that its name finds. -/
theorem find?_name_of_mem {c : Column} (distinct : (columns.map Column.name).Nodup)
    (held : c ∈ columns) : (columns.find? fun d => d.name == c.name) = some c := by
  induction columns with
  | nil => cases held
  | cons d columns ih =>
    rw [List.map_cons, List.nodup_cons] at distinct
    rw [List.find?_cons]
    rcases List.mem_cons.1 held with rfl | later
    · simp
    · have other : d.name ≠ c.name := fun same =>
        distinct.1 (same ▸ List.mem_map_of_mem later)
      rw [beq_eq_false_iff_ne.2 other]
      exact ih distinct.2 later

namespace Table

theorem cell?_eq {t : Table} (width : ∀ row ∈ t.rows, row.length = t.columns.length) (i : Nat)
    (name : String) : t.cell? i name = t.rows[i]?.bind fun row => cellIn t.columns row name := by
  cases at_i : t.rows[i]? with
  | none => cases found : t.column? name <;> simp [cell?, at_i, found]
  | some row =>
    have wide := width row (List.mem_of_getElem? at_i)
    rw [Option.bind_some, cellIn_eq_position wide, cell?, at_i]
    rfl

/-! ## Rows that are made -/

/-- Values that a table takes as a row: each names a column that takes it, none names one twice, and
no required cell stays empty. -/
structure Takes (t : Table) (values : NamedValues) : Prop where
  once : (values.map Prod.fst).Nodup
  typed : ∀ entry ∈ values, ∃ c, t.column? entry.1 = some c ∧ c.type.accepts entry.2 = true
  filled : ∀ c ∈ t.columns, c.required = true → (values.lookup c.name).isSome = true

private theorem checkValues_ok_iff {t : Table} {seen : List String} {values : NamedValues} :
    t.checkValues seen values = .ok () ↔
      (values.map Prod.fst).Nodup ∧ (∀ entry ∈ values, entry.1 ∉ seen) ∧
        ∀ entry ∈ values, ∃ c, t.column? entry.1 = some c ∧ c.type.accepts entry.2 = true := by
  induction values generalizing seen with
  | nil => simp [checkValues]
  | cons entry values ih =>
    obtain ⟨name, value⟩ := entry
    simp only [checkValues, List.map_cons, List.nodup_cons, List.forall_mem_cons]
    cases found : t.column? name with
    | none => simp
    | some c =>
      by_cases before : name ∈ seen
      · simp [before]
      by_cases typed : c.type.accepts value = true
      · simp only [before, typed, if_true, if_false, ih, List.mem_cons, not_or, Option.some.injEq]
        constructor
        · rintro ⟨once, unseen, each⟩
          refine ⟨⟨?_, once⟩, ⟨not_false, fun e held => (unseen e held).2⟩, ⟨c, rfl, typed⟩, each⟩
          intro again
          obtain ⟨e, held, same⟩ := List.mem_map.1 again
          exact (unseen e held).1 same
        · rintro ⟨⟨fresh, once⟩, ⟨-, unseen⟩, -, each⟩
          refine ⟨once, fun e held => ⟨?_, unseen e held⟩, each⟩
          rintro rfl
          exact fresh (List.mem_map_of_mem held)
      · simp [before, typed]

private theorem cellOf_ok_iff {values : NamedValues} {c : Column} {cell : Option Value} :
    cellOf values c = .ok cell ↔
      (c.required = true → (values.lookup c.name).isSome = true) ∧
        cell = values.lookup c.name := by
  unfold cellOf
  cases values.lookup c.name with
  | some v => simp only [Except.ok.injEq, Option.isSome_some, implies_true, true_and, eq_comm]
  | none => by_cases required : c.required = true <;> simp [required, @eq_comm _ cell]

/-- A row is made exactly from the values that the table takes, and it has each value in the column
of its name. -/
theorem rowOf_ok_iff {t : Table} {values : NamedValues} {row : Row} :
    t.rowOf values = .ok row ↔
      t.Takes values ∧ row = t.columns.map fun c => values.lookup c.name := by
  have checked : t.checkValues [] values = .ok () ↔ (values.map Prod.fst).Nodup ∧
      ∀ entry ∈ values, ∃ c, t.column? entry.1 = some c ∧ c.type.accepts entry.2 = true := by
    simp [checkValues_ok_iff]
  have cells : t.columns.mapM (cellOf values) = .ok row ↔
      (∀ c ∈ t.columns, c.required = true → (values.lookup c.name).isSome = true) ∧
        t.columns.map (fun c => values.lookup c.name) = row := by
    simp only [mapM_ok_iff, cellOf_ok_iff, List.forall₂_and_left]
    rw [← List.forall₂_eq_eq_eq, List.forall₂_map_left_iff]
    simp only [eq_comm]
  rw [rowOf, bind_ok_iff]
  constructor
  · rintro ⟨⟨⟩, passed, built⟩
    exact ⟨⟨(checked.1 passed).1, (checked.1 passed).2, (cells.1 built).1⟩, (cells.1 built).2.symm⟩
  · rintro ⟨⟨once, typed, filled⟩, rfl⟩
    exact ⟨(), checked.2 ⟨once, typed⟩, cells.2 ⟨filled, rfl⟩⟩

/-- A made row holds each value under the name of its column, and nothing else. -/
theorem cellIn_rowOf {t : Table} {values : NamedValues} {row : Row}
    (made : t.rowOf values = .ok row) (name : String) :
    cellIn t.columns row name = (t.column? name).map fun _ => values.lookup name := by
  rw [(rowOf_ok_iff.1 made).2, cellIn_map, column?]
  cases found : t.columns.find? fun c => c.name == name with
  | none => rfl
  | some c =>
    have same : c.name = name := by simpa using List.find?_some found
    simp [same]

/-! ## Keys -/

/-- The key column, if the table has one. -/
def keyColumn? (t : Table) : Option Column :=
  t.columns.find? Column.primaryKey

private theorem keyCell_eq (distinct : (columns.map Column.name).Nodup)
    (width : row.length = columns.length) :
    ((columns.zip row).find? fun (c, _) => c.primaryKey).bind Prod.snd =
      (columns.find? Column.primaryKey).bind fun c => (cellIn columns row c.name).join := by
  induction columns generalizing row with
  | nil => rfl
  | cons c columns ih =>
    cases row with
    | nil => cases width
    | cons cell row =>
      rw [List.map_cons, List.nodup_cons] at distinct
      rw [List.zip_cons_cons, List.find?_cons, List.find?_cons]
      by_cases key : c.primaryKey = true
      · simp [key, cellIn_cons]
      · simp only [key]
        rw [ih distinct.2 (by simpa using width)]
        cases found : columns.find? Column.primaryKey with
        | none => rfl
        | some d =>
          have held : d.name ∈ columns.map Column.name :=
            List.mem_map_of_mem (List.mem_of_find?_eq_some found)
          have other : c.name ≠ d.name := fun same => distinct.1 (same ▸ held)
          rw [Option.bind_some, Option.bind_some, cellIn_cons, if_neg other]

/-- The key of a row is its cell in the key column. -/
theorem keyOf_eq {t : Table} {row : Row} (distinct : (t.columns.map Column.name).Nodup)
    (width : row.length = t.columns.length) :
    t.keyOf row = t.keyColumn?.bind fun c => (cellIn t.columns row c.name).join := by
  rw [keyColumn?, ← keyCell_eq distinct width, keyOf]
  cases (t.columns.zip row).find? fun (c, _) => c.primaryKey <;> rfl

end Table
end RecordSink
