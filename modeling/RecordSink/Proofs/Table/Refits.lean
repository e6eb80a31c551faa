import RecordSink.Proofs.Table.Changes

/-! Tables with some columns gone and others come. The columns that stay keep their order and their
cells, the new ones stand behind them and are empty in every row. Adding a column is such a change
and so is dropping one, and two of them are one. -/
namespace RecordSink.Table

/-- The cells of a row in the columns that stay. -/
def keptCells (keep : Column → Bool) (columns : List Column) (row : Row) : Row :=
  ((columns.zip row).filter fun pair => keep pair.1).map Prod.snd

/-- The table with only these of its columns, and then these new ones. -/
def refit (t : Table) (keep : Column → Bool) (made : List Column) : Table :=
  ⟨t.columns.filter keep ++ made,
    t.rows.map fun row => keptCells keep t.columns row ++ made.map fun _ => none⟩

variable {t u : Table} {c : Column} {name : String} {keep other : Column → Bool}
variable {columns made : List Column} {row : Row}

/-! ## Cells by column -/

private theorem fst_kept (width : row.length = columns.length) :
    ((columns.zip row).filter fun pair => keep pair.1).map Prod.fst = columns.filter keep := by
  have split : columns = (columns.zip row).map Prod.fst :=
    (List.map_fst_zip (Nat.le_of_eq width.symm)).symm
  conv_rhs => rw [split, List.filter_map]
  rfl

private theorem length_keptCells (width : row.length = columns.length) :
    (keptCells keep columns row).length = (columns.filter keep).length := by
  rw [← fst_kept width, keptCells, List.length_map, List.length_map]

private theorem keptCells_congr (same : ∀ c ∈ columns, keep c = other c) :
    keptCells keep columns row = keptCells other columns row := by
  rw [keptCells, keptCells, List.filter_congr fun pair among => same pair.1 (List.of_mem_zip among).1]

private theorem keptCells_all (width : row.length = columns.length)
    (all : ∀ c ∈ columns, keep c = true) : keptCells keep columns row = row := by
  rw [keptCells, List.filter_eq_self.2 fun pair among => all pair.1 (List.of_mem_zip among).1,
    List.map_snd_zip (Nat.le_of_eq width)]

private theorem keptCells_none :
    keptCells keep made (made.map fun _ => none) = (made.filter keep).map fun _ => none := by
  induction made with
  | nil => rfl
  | cons c made ih =>
    rw [keptCells] at ih ⊢
    cases kept : keep c <;> simpa [kept] using ih

/-- Cells that stay and cells that are new, when some of their columns go. -/
private theorem keptCells_append (width : row.length = columns.length) :
    keptCells other (columns.filter keep ++ made)
        (keptCells keep columns row ++ made.map fun _ => none) =
      keptCells (fun c => keep c && other c) columns row ++ (made.filter other).map fun _ => none := by
  have paired : (columns.filter keep).zip (keptCells keep columns row) =
      (columns.zip row).filter fun pair => keep pair.1 :=
    (List.zip_of_prod (fst_kept width) rfl).symm
  have old : keptCells other (columns.filter keep) (keptCells keep columns row) =
      keptCells (fun c => keep c && other c) columns row := by
    conv_lhs => rw [keptCells, paired, List.filter_filter]
    simp only [keptCells, Bool.and_comm]
  conv_lhs => rw [keptCells, List.zip_append (length_keptCells width).symm, List.filter_append,
    List.map_append]
  exact congr (congrArg _ old) keptCells_none

/-! ## Changes -/

theorem refit_congr (same : ∀ c ∈ t.columns, keep c = other c) :
    t.refit keep made = t.refit other made := by
  rw [refit, refit, List.filter_congr same]
  simp only [keptCells_congr same]

/-- Keeping all columns and making none is no change. -/
theorem refit_all (well : t.WellFormed) (all : ∀ c ∈ t.columns, keep c = true) :
    t.refit keep [] = t := by
  have rows : (t.rows.map fun row => keptCells keep t.columns row ++ [].map fun (_ : Column) => none) =
      t.rows := by
    refine (List.map_congr_left fun row held => ?_).trans (List.map_id t.rows)
    rw [keptCells_all (well.width row held) all, List.map_nil, List.append_nil]
    rfl
  rw [refit, rows, List.filter_eq_self.2 all, List.append_nil]

/-- Two changes are one: what is new after the first may go with the second. -/
theorem refit_refit (well : t.WellFormed) (keep other : Column → Bool) (made more : List Column) :
    (t.refit keep made).refit other more =
      t.refit (fun c => keep c && other c) (made.filter other ++ more) := by
  have columns : (t.columns.filter keep ++ made).filter other ++ more =
      (t.columns.filter fun c => keep c && other c) ++ (made.filter other ++ more) := by
    rw [List.filter_append, List.filter_filter, List.append_assoc]
    simp only [Bool.and_comm]
  simp only [refit, columns, List.map_map]
  congr 1
  refine List.map_congr_left fun row held => ?_
  rw [Function.comp_apply, keptCells_append (well.width row held), List.map_append, List.append_assoc]

theorem addColumn_eq_refit (well : t.WellFormed) (added : t.addColumn c = .ok u) :
    u = t.refit (fun _ => true) [c] := by
  obtain ⟨-, -, rfl⟩ := addColumn_ok_iff.1 added
  rw [refit, List.filter_eq_self.2 fun _ _ => rfl]
  congr 1
  refine List.map_congr_left fun row held => ?_
  rw [keptCells_all (well.width row held) fun _ _ => rfl]
  rfl

/-- Where at most one element is of a kind, taking out the first leaves those that are not. -/
private theorem eraseIdx_findIdx {α : Type} {p : α → Bool} {as : List α}
    (once : as.Pairwise fun a b => p a = true → p b = false) :
    as.eraseIdx (as.findIdx p) = as.filter fun a => !p a := by
  induction as with
  | nil => rfl
  | cons a as ih =>
    obtain ⟨first, rest⟩ := List.pairwise_cons.1 once
    rw [List.findIdx_cons]
    cases found : p a with
    | true =>
      rw [List.filter_cons_of_neg (by simp [found])]
      exact (List.filter_eq_self.2 fun b later => by rw [first b later found]; rfl).symm
    | false =>
      rw [List.filter_cons_of_pos (by simp [found]), ← ih rest]
      rfl

theorem dropColumn_eq_refit (well : t.WellFormed) (dropped : t.dropColumn name = .ok u) :
    u = t.refit (fun c => c.name != name) [] := by
  obtain ⟨c, -, -, rfl⟩ := dropColumn_ok_iff.1 dropped
  have once : t.columns.Pairwise fun a b => (a.name == name) = true → (b.name == name) = false := by
    have distinct := well.distinct
    rw [List.Nodup, List.pairwise_map] at distinct
    refine distinct.imp fun {a b} apart own => ?_
    rw [← eq_of_beq own]
    exact beq_eq_false_iff_ne.2 (Ne.symm apart)
  have columns : t.columns.eraseIdx (t.position name) = t.columns.filter fun c => c.name != name :=
    eraseIdx_findIdx once
  rw [refit, columns, List.append_nil]
  congr 1
  refine List.map_congr_left fun row held => ?_
  have paired : (t.columns.zip row).Pairwise fun a b =>
      (a.1.name == name) = true → (b.1.name == name) = false := by
    rw [← List.map_fst_zip (Nat.le_of_eq (well.width row held).symm), List.pairwise_map] at once
    exact once
  have position : (t.columns.zip row).findIdx (fun pair => pair.1.name == name) =
      t.position name := by
    conv_rhs => rw [position, ← List.map_fst_zip (Nat.le_of_eq (well.width row held).symm),
      List.findIdx_map]
    rfl
  have cells : row.eraseIdx (t.position name) =
      ((t.columns.zip row).eraseIdx (t.position name)).map Prod.snd := by
    rw [← List.eraseIdx_map, List.map_snd_zip (Nat.le_of_eq (well.width row held))]
  rw [cells, ← position, eraseIdx_findIdx paired, List.map_nil, List.append_nil]
  rfl

end RecordSink.Table
