import RecordSink.Proofs.Table.Changes
import RecordSink.Proofs.Table.Keys
import RecordSink.Store.Columns

/-! Timestamps of tables. In a table whose key is the column of timestamps every row has exactly
one, and a timestamp is taken as a key exactly if it is one of them. Columns that come and go leave
the timestamps alone, and rows that come and go do so with theirs. -/
namespace RecordSink.Table

/-- The key of the table is the column of timestamps. -/
def Stamped (t : Table) : Prop :=
  ∃ k, t.keyColumn? = some k ∧ k.name = keyColumn ∧ k.type = .bigInt

/-- The timestamp in a cell. -/
def timestampIn : Option (Option Value) → Option Int64
  | some (some (.long n)) => some n
  | _ => none

variable {t u : Table} {row : Row} {n : Int64} {values : NamedValues}

private theorem getElem?_position (width : row.length = t.columns.length) (name : String) :
    row[t.position name]? = cellIn t.columns row name := by
  rw [cellIn_eq_position width]
  cases found : t.columns.find? fun c => c.name == name with
  | some c => rfl
  | none =>
    have last : t.position name = t.columns.length := by
      rw [position, List.findIdx_eq_length]
      intro c held
      simpa using List.find?_eq_none.1 found c held
    rw [Option.bind_none, List.getElem?_eq_none_iff]
    omega

/-- A row that suits its columns has a cell in each of them that the column allows. -/
private theorem allows_of_mem {columns : List Column} {c : Column}
    (distinct : (columns.map Column.name).Nodup) (suits : List.Forall₂ Column.Allows columns row)
    (among : c ∈ columns) : ∃ cell, cellIn columns row c.name = some cell ∧ c.Allows cell := by
  induction suits with
  | nil => cases among
  | @cons d cell columns row head tail ih =>
    rw [List.map_cons, List.nodup_cons] at distinct
    rw [cellIn_cons]
    rcases List.mem_cons.1 among with rfl | later
    · exact ⟨cell, if_pos rfl, head⟩
    · have other : d.name ≠ c.name := fun same => distinct.1 (same ▸ List.mem_map_of_mem later)
      rw [if_neg other]
      exact ih distinct.2 later

theorem timestamps_eq (well : t.WellFormed) :
    t.timestamps = t.rows.filterMap fun row => timestampIn (cellIn t.columns row keyColumn) := by
  refine List.filterMap_congr fun row held => ?_
  rw [getElem?_position (well.width row held)]
  cases cellIn t.columns row keyColumn with
  | none => rfl
  | some cell =>
    cases cell with
    | none => rfl
    | some v => cases v <;> rfl

/-- Tables with the same cells in this column, in as many rows, have the same timestamps. -/
theorem timestamps_congr (well : t.WellFormed) (well' : u.WellFormed)
    (rows : u.rows.length = t.rows.length)
    (cells : ∀ i, i < t.rows.length → u.cell? i keyColumn = t.cell? i keyColumn) :
    u.timestamps = t.timestamps := by
  have same : u.rows.map (fun row => cellIn u.columns row keyColumn) =
      t.rows.map fun row => cellIn t.columns row keyColumn := by
    refine List.ext_getElem (by simp [rows]) fun i left right => ?_
    rw [List.length_map] at left right
    have cell := cells i right
    rw [cell?_eq well.width, cell?_eq well'.width, List.getElem?_eq_getElem left,
      List.getElem?_eq_getElem right] at cell
    simpa using cell
  rw [timestamps_eq well, timestamps_eq well']
  have pair := congrArg (List.filterMap timestampIn) same
  rwa [List.filterMap_map, List.filterMap_map] at pair

theorem timestamps_grow (rows : List Row) :
    (t.grow rows).timestamps = t.timestamps ++ (Table.mk t.columns rows).timestamps :=
  List.filterMap_append

theorem timestamps_append (gone rest : List Row) (columns : List Column) :
    (Table.mk columns (gone ++ rest)).timestamps =
      (Table.mk columns gone).timestamps ++ (Table.mk columns rest).timestamps :=
  List.filterMap_append

/-! ## Tables whose key is the timestamp -/

section Stamped

variable (well : t.WellFormed) (stamped : t.Stamped)
include well stamped

/-- Every row has a timestamp, and it is its key. -/
theorem Stamped.timestamp_of_mem (held : row ∈ t.rows) :
    ∃ n, cellIn t.columns row keyColumn = some (some (.long n)) ∧ t.keyOf row = some (.long n) := by
  obtain ⟨k, keyed, named, typed⟩ := stamped
  have key : k.primaryKey = true := List.find?_some keyed
  obtain ⟨cell, there, allowed⟩ := allows_of_mem well.distinct (well.filled row held)
    (List.mem_of_find?_eq_some keyed)
  rw [named] at there
  have own : t.keyOf row = cell := by
    rw [keyOf_eq well.distinct (well.width row held), keyed, Option.bind_some, named, there]
    rfl
  cases cell with
  | none =>
    rw [Column.Allows, Column.required, key, Bool.or_true] at allowed
    cases allowed
  | some v =>
    rw [Column.Allows, typed] at allowed
    cases v with
    | long n => exact ⟨n, there, own⟩
    | _ => cases allowed

theorem Stamped.length_timestamps : t.timestamps.length = t.rows.length := by
  rw [timestamps_eq well, List.length_filterMap_eq_countP, List.countP_eq_length]
  intro row held
  obtain ⟨n, there, -⟩ := stamped.timestamp_of_mem well held
  rw [there]
  rfl

/-- A timestamp is taken as a key exactly if it is the timestamp of a row. -/
theorem Stamped.hasKey_iff : t.hasKey (.long n) = true ↔ n ∈ t.timestamps := by
  rw [hasKey, List.any_eq_true, timestamps_eq well, List.mem_filterMap]
  refine exists_congr fun row => and_congr_right fun held => ?_
  obtain ⟨m, there, own⟩ := stamped.timestamp_of_mem well held
  rw [rowHasKey, own, there]
  simp [Value.equals, timestampIn]

theorem Stamped.hasKey_of_later (later : ∀ m ∈ t.timestamps, m < n) :
    t.hasKey (.long n) = false := by
  rw [Bool.eq_false_iff, ne_eq, stamped.hasKey_iff well]
  intro among
  exact Int64.lt_irrefl (later n among)

/-- The key of a row that is made with a timestamp is the timestamp. -/
theorem Stamped.keyOf_rowOf (made : t.rowOf ((keyColumn, .long n) :: values) = .ok row) :
    t.keyOf row = some (.long n) := by
  obtain ⟨k, keyed, named, -⟩ := stamped
  rw [Table.keyOf_rowOf well made, keyed, Option.bind_some, named, lookup_cons, if_pos rfl]

/-- A row that is made with a timestamp adds it to those of the table. -/
theorem Stamped.timestamps_grow_made (made : t.rowOf ((keyColumn, .long n) :: values) = .ok row) :
    (t.grow [row]).timestamps = t.timestamps ++ [n] := by
  have alone : (Table.mk t.columns [row]).WellFormed := by
    refine ⟨well.distinct, well.oneKey, well.named, fun other held => ?_⟩
    rw [List.mem_singleton.1 held]
    exact allowed_of_rowOf (t := t) well.distinct made
  obtain ⟨m, there, own⟩ := Stamped.timestamp_of_mem alone stamped (List.mem_singleton.2 rfl)
  have own' : t.keyOf row = some (.long m) := own
  have same : some (Value.long m) = some (.long n) :=
    own'.symm.trans (stamped.keyOf_rowOf well made)
  obtain rfl : m = n := by
    cases same
    rfl
  rw [timestamps_grow, timestamps_eq alone]
  simp [there, timestampIn]

end Stamped

theorem stamped_change (change : t.Change u) (stamped : t.Stamped) : u.Stamped := by
  obtain ⟨k, keyed, same⟩ := stamped
  exact ⟨k, (keyColumn?_change change).trans keyed, same⟩

/-- A statement changes the timestamps of a table at most by taking some from the front. -/
theorem timestamps_change (well : t.WellFormed) (stamped : t.Stamped) (change : t.Change u) :
    u.timestamps <:+ t.timestamps := by
  have after := wellFormed_change well change
  obtain ⟨k, keyed, named, -⟩ := stamped
  have key : t.column? keyColumn = some k := by
    rw [← named]
    exact find?_name_of_mem well.distinct (List.mem_of_find?_eq_some keyed)
  cases change with
  | @gained _ c plain names added =>
    have other : keyColumn ≠ c.name := by
      intro same
      rw [same, (addColumn_ok_iff.1 added).1] at key
      cases key
    have rows : u.rows.length = t.rows.length := by
      obtain ⟨-, -, rfl⟩ := addColumn_ok_iff.1 added
      exact List.length_map _
    have same := timestamps_congr well after rows fun i _ => by
      rw [cell?_addColumn well plain names added, if_neg other]
    exact same ▸ List.suffix_refl _
  | @lost _ name dropped =>
    have other : keyColumn ≠ name := by
      rintro rfl
      obtain ⟨c, found, plain, -⟩ := dropColumn_ok_iff.1 dropped
      rw [key, Option.some.injEq] at found
      rw [← found, List.find?_some keyed] at plain
      cases plain
    have rows : u.rows.length = t.rows.length := by
      obtain ⟨c, -, -, rfl⟩ := dropColumn_ok_iff.1 dropped
      exact List.length_map _
    have same := timestamps_congr well after rows fun i _ => by
      rw [cell?_dropColumn well dropped, if_neg other]
    exact same ▸ List.suffix_refl _
  | emptied limit => exact List.IsSuffix.filterMap _ (List.drop_suffix _ _)

/-! ## Chronological tables -/

/-- A table keyed by timestamps that increase from row to row, none of them later than this one. -/
structure Chronological (t : Table) (latest : Int64) : Prop where
  stamped : t.Stamped
  increasing : t.timestamps.Pairwise (· < ·)
  bounded : ∀ n ∈ t.timestamps, n ≤ latest

variable {latest : Int64}

theorem Chronological.mono (chronological : t.Chronological latest) (later : latest ≤ n) :
    t.Chronological n :=
  ⟨chronological.stamped, chronological.increasing, fun m among =>
    Int64.le_trans (chronological.bounded m among) later⟩

/-- A statement keeps a table chronological. -/
theorem Chronological.change (well : t.WellFormed) (chronological : t.Chronological latest)
    (change : t.Change u) : u.Chronological latest := by
  have fewer := timestamps_change well chronological.stamped change
  refine ⟨stamped_change change chronological.stamped,
    chronological.increasing.sublist fewer.sublist, fun m among => ?_⟩
  exact chronological.bounded m (fewer.subset among)

/-- So does one more row, if its timestamp is not earlier and not taken. -/
theorem Chronological.grow (well : t.WellFormed) (chronological : t.Chronological latest)
    (made : t.rowOf ((keyColumn, .long n) :: values) = .ok row) (later : latest ≤ n)
    (fresh : t.hasKey (.long n) = false) : (t.grow [row]).Chronological n := by
  have more := chronological.stamped.timestamps_grow_made well made
  have bounded : ∀ m ∈ t.timestamps, m ≤ n := (chronological.mono later).bounded
  have below : ∀ m ∈ t.timestamps, m < n := by
    intro m among
    refine Int64.lt_of_le_of_ne (bounded m among) ?_
    rintro rfl
    rw [(chronological.stamped.hasKey_iff well).2 among] at fresh
    cases fresh
  refine ⟨chronological.stamped, ?_, fun m among => ?_⟩
  · rw [more, List.pairwise_append]
    refine ⟨chronological.increasing, List.pairwise_singleton _ _, fun m old other new => ?_⟩
    rw [List.mem_singleton.1 new]
    exact below m old
  · rw [more, List.mem_append, List.mem_singleton] at among
    rcases among with old | rfl
    · exact bounded m old
    · exact Int64.le_refl _

/-- A later timestamp is no key of the table. -/
theorem Chronological.fresh (well : t.WellFormed) (chronological : t.Chronological latest)
    (later : latest < n) : t.hasKey (.long n) = false :=
  chronological.stamped.hasKey_of_later well fun m among =>
    Int64.lt_of_le_of_lt (chronological.bounded m among) later

/-- One table is the other without this many rows, which are those with the smallest timestamps. -/
structure LosesOldest (t : Table) (gone : Nat) (u : Table) : Prop where
  columns : u.columns = t.columns
  rows : ∃ oldest, t.rows = oldest ++ u.rows ∧ oldest.length = gone ∧
    (Table.mk t.columns oldest).timestamps.length = gone ∧
    ∀ a ∈ (Table.mk t.columns oldest).timestamps, ∀ b ∈ u.timestamps, a < b

theorem Chronological.losesFirst {columns : List Column} {first rest : List Row}
    (well : (Table.mk columns (first ++ rest)).WellFormed)
    (chronological : (Table.mk columns (first ++ rest)).Chronological latest) :
    (Table.mk columns (first ++ rest)).LosesOldest first.length ⟨columns, rest⟩ := by
  have increasing := chronological.increasing
  have each : (Table.mk columns (first ++ rest)).timestamps.length = (first ++ rest).length :=
    chronological.stamped.length_timestamps well
  rw [timestamps_append first rest columns, List.pairwise_append] at increasing
  rw [timestamps_append first rest columns, List.length_append, List.length_append] at each
  refine ⟨rfl, first, rfl, rfl, ?_, increasing.2.2⟩
  -- No row has two timestamps, so neither part of the rows can make up for the other.
  have left : (Table.mk columns first).timestamps.length ≤ first.length :=
    List.length_filterMap_le _ _
  have right : (Table.mk columns rest).timestamps.length ≤ rest.length :=
    List.length_filterMap_le _ _
  change (Table.mk columns first).timestamps.length = first.length
  omega

/-- The rows that go from the front are the oldest ones. -/
theorem Chronological.deleteRows (well : t.WellFormed) (chronological : t.Chronological latest)
    (limit : Option Nat) : t.LosesOldest (t.deleteRows limit).1 (t.deleteRows limit).2 := by
  have few : (t.deleteRows limit).1 ≤ t.rows.length := by
    cases limit with
    | none => exact Nat.le_refl _
    | some limit => exact Nat.min_le_right _ _
  have halves : t = ⟨t.columns, t.rows.take (t.deleteRows limit).1 ++
      t.rows.drop (t.deleteRows limit).1⟩ := by
    rw [List.take_append_drop]
  have loses := Chronological.losesFirst (halves ▸ well) (halves ▸ chronological)
  rw [← halves, List.length_take_of_le few] at loses
  exact loses

end RecordSink.Table
