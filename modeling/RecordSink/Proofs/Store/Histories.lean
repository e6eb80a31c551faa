import Mathlib.Data.List.Induction
import RecordSink.Proofs.Sql.Words
import RecordSink.Proofs.Table.Alignment

/-! Histories of stored records, and the one table that each of them leaves behind. A column has the
type of the last record that has a value for it, and a row has kept its value there as long as no
later record changed that type. What a store does for one more record, bring the table in line and
add a row, takes the table of a history to the table of the longer one. -/
namespace RecordSink

/-- A record that was stored: the timestamp of its row, and its values by column. -/
structure StoredRow where
  /-- The key of the row. -/
  timestamp : Int64
  /-- The values of the other columns. -/
  values : NamedValues
  deriving DecidableEq

/-- Whether a row has no value under this name, or one that is typed like this value. -/
def StoredRow.agrees (e : StoredRow) (name : String) (v : Value) : Bool :=
  match e.values.lookup name with
  | some w => Typing.standard w.kind == Typing.standard v.kind
  | none => true

/-- Stored records, oldest first. -/
abbrev History := List StoredRow

namespace History

/-- The type of the column of this name: that of the last record with a value for it. -/
def typeOf? (h : History) (name : String) : Option ColumnType :=
  h.reverse.findSome? fun e => (e.values.lookup name).map fun v => Typing.standard v.kind

/-- What the row at an index holds in the column of this name: the value of its own record, unless
it has none or a later record has a value of another type. -/
def cell (h : History) (i : Nat) (name : String) : Option Value :=
  (h[i]?.bind fun e => e.values.lookup name).filter fun v =>
    (h.drop (i + 1)).all fun e => e.agrees name v

variable {h : History} {e : StoredRow} {i : Nat} {name : String} {v : Value}

theorem typeOf?_append : typeOf? (h ++ [e]) name =
    match e.values.lookup name with
    | some v => some (Typing.standard v.kind)
    | none => h.typeOf? name := by
  unfold typeOf?
  rw [List.reverse_append, List.reverse_singleton, List.singleton_append, List.findSome?_cons]
  cases e.values.lookup name <;> rfl

theorem cell_append_of_lt (earlier : i < h.length) :
    cell (h ++ [e]) i name = (h.cell i name).filter (e.agrees name) := by
  have rest : (h ++ [e]).drop (i + 1) = h.drop (i + 1) ++ [e] :=
    List.drop_append_of_le_length earlier
  unfold cell
  rw [List.getElem?_append_left earlier, rest, Option.filter_filter]
  congr 1
  funext v
  rw [List.all_append, List.all_cons, List.all_nil, Bool.and_true, Bool.and_comm]

theorem cell_append_last : cell (h ++ [e]) h.length name = e.values.lookup name := by
  have beyond : (h ++ [e]).drop (h.length + 1) = [] :=
    List.drop_eq_nil_of_le (Nat.le_of_eq List.length_append)
  unfold cell
  rw [List.getElem?_concat_length, Option.bind_some, beyond]
  cases e.values.lookup name <;> rfl

/-- A value that is still there has the type of its column. -/
theorem typeOf?_of_cell (held : h.cell i name = some v) :
    h.typeOf? name = some (Typing.standard v.kind) := by
  induction h using List.reverseRec with
  | nil => cases held
  | append_singleton before e ih =>
    rw [typeOf?_append]
    rcases Nat.lt_trichotomy i before.length with earlier | rfl | later
    · rw [cell_append_of_lt earlier, Option.filter_eq_some_iff] at held
      obtain ⟨there, agrees⟩ := held
      unfold StoredRow.agrees at agrees
      cases found : e.values.lookup name with
      | none => exact ih there
      | some w =>
        rw [found, beq_iff_eq] at agrees
        exact congrArg some agrees
    · rw [cell_append_last] at held
      rw [held]
    · have beyond : (before ++ [e])[i]? = none := by
        rw [List.getElem?_eq_none_iff, List.length_append, List.length_singleton]
        omega
      unfold cell at held
      rw [beyond] at held
      cases held

/-- One more record leaves an earlier cell alone if it leaves the type of its column, and else
empties it. -/
theorem cell_append (earlier : i < h.length) : cell (h ++ [e]) i name =
    match e.values.lookup name with
    | some w => if h.typeOf? name = some (Typing.standard w.kind) then h.cell i name else none
    | none => h.cell i name := by
  rw [cell_append_of_lt earlier]
  cases held : h.cell i name with
  | none => cases e.values.lookup name <;> simp
  | some v =>
    have typed := typeOf?_of_cell held
    cases given : e.values.lookup name with
    | none => simp [StoredRow.agrees, given]
    | some w =>
      by_cases same : Typing.standard w.kind = Typing.standard v.kind
      · simp [StoredRow.agrees, given, typed, same]
      · simp [StoredRow.agrees, given, typed, same, Ne.symm same]

end History

/-! ## Tables of histories -/

/-- The table that a store makes. -/
def Table.blank : Table :=
  ⟨[⟨keyColumn, .bigInt, true, true⟩], []⟩

/-- The table of a history: one row for each record, keyed by its timestamp, and besides the key the
columns of all records, with the types and the cells that the history says. -/
structure Table.Records (t : Table) (h : History) : Prop where
  well : t.WellFormed
  rows : t.rows.length = h.length
  keyed : t.keyColumn? = some ⟨keyColumn, .bigInt, true, true⟩
  columns : ∀ name, name ≠ keyColumn →
    t.column? name = (h.typeOf? name).map fun type => .plain name type
  keys : ∀ i e, h[i]? = some e → t.cell? i keyColumn = some (some (.long e.timestamp))
  cells : ∀ i, i < h.length → ∀ name, name ≠ keyColumn →
    t.cell? i name = (h.typeOf? name).map fun _ => h.cell i name

namespace Table

variable {t u : Table} {h : History} {values : NamedValues} {timestamp : Int64}

theorem records_blank : blank.Records [] := by
  refine ⟨⟨?_, ?_, ?_, ?_⟩, rfl, rfl, fun name other => ?_, ?_, ?_⟩
  · simp [blank]
  · simp [blank]
  · simpa [blank] using Sql.keyColumn_is_name
  · simp [blank]
  · simp [blank, column?, Ne.symm other, History.typeOf?]
  · simp
  · simp

theorem Records.plain (records : t.Records h) {name : String} (other : name ≠ keyColumn) {c : Column}
    (found : t.column? name = some c) : c = .plain name c.type := by
  rw [records.columns name other, Option.map_eq_some_iff] at found
  obtain ⟨type, -, rfl⟩ := found
  rfl

/-- A table that takes the values of a record is in line with them already. -/
theorem Records.aligned (records : t.Records h)
    (takes : t.Takes ((keyColumn, .long timestamp) :: values)) : t.Aligned values t := by
  obtain ⟨apart, -⟩ := List.nodup_cons.1 takes.once
  have right : ∀ name v, values.lookup name = some v → t.column? name = some (columnFor name v) := by
    intro name v found
    have held := mem_of_lookup found
    have other : name ≠ keyColumn := fun same =>
      apart (same ▸ List.mem_map.2 ⟨_, held, rfl⟩)
    obtain ⟨c, there, fits⟩ := takes.typed _ (.tail _ held)
    rw [there, records.plain other there, Typing.accepts_iff_eq_standard.1 fits]
    rfl
  refine ⟨records.well, rfl, rfl, fun name => ?_, fun i _ name => ?_⟩
  · cases found : values.lookup name with
    | none => rfl
    | some v => exact right name v found
  · cases found : values.lookup name with
    | none => rfl
    | some v => exact (if_pos (right name v found)).symm

/-! ## One more record -/

section More

variable (records : t.Records h) (aligned : t.Aligned values u)
include records aligned

/-- The columns of a table in line with one more record are those of the longer history. -/
private theorem columns_of_aligned (timestamp : Int64) {name : String}
    (other : name ≠ keyColumn) : u.column? name =
      (History.typeOf? (h ++ [⟨timestamp, values⟩]) name).map fun type => .plain name type := by
  rw [aligned.columns, History.typeOf?_append, records.columns name other]
  cases values.lookup name <;> rfl

/-- A cell of an earlier row is kept exactly if the new record leaves the type of its column. -/
private theorem cells_of_aligned {i : Nat} (earlier : i < h.length) {name : String}
    (other : name ≠ keyColumn) : u.cell? i name =
      (History.typeOf? (h ++ [⟨timestamp, values⟩]) name).map fun _ =>
        History.cell (h ++ [⟨timestamp, values⟩]) i name := by
  rw [aligned.cells i (records.rows ▸ earlier), History.typeOf?_append,
    History.cell_append earlier, records.columns name other, records.cells i earlier name other]
  cases values.lookup name with
  | none => rfl
  | some w =>
    cases typed : h.typeOf? name with
    | none => simp
    | some type =>
      by_cases same : type = Typing.standard w.kind
      · simp [columnFor, same]
      · simp [columnFor, Column.plain, same]

private theorem key_of_aligned :
    u.column? keyColumn = some ⟨keyColumn, .bigInt, true, true⟩ :=
  find?_name_of_mem aligned.well.distinct
    (List.mem_of_find?_eq_some (aligned.keyed.trans records.keyed))

variable (once : (keyColumn :: values.map Prod.fst).Nodup)
include once

private theorem keys_of_aligned {i : Nat} {e : StoredRow} (there : h[i]? = some e) :
    u.cell? i keyColumn = some (some (.long e.timestamp)) := by
  have within : i < t.rows.length := records.rows ▸ (List.getElem?_eq_some_iff.1 there).1
  have unnamed : values.lookup keyColumn = none :=
    lookup_eq_none_iff.2 (List.nodup_cons.1 once).1
  rw [aligned.cells i within, unnamed]
  exact records.keys i e there

/-- The row of the new record can be made. -/
private theorem takes_of_aligned (timestamp : Int64) :
    u.Takes ((keyColumn, .long timestamp) :: values) := by
  have key := key_of_aligned records aligned
  refine ⟨once, List.forall_mem_cons.2 ⟨⟨_, key, rfl⟩, fun entry held => ?_⟩,
    fun c held required => ?_⟩
  · have found := aligned.columns entry.1
    rw [lookup_of_mem (List.nodup_cons.1 once).2 held] at found
    exact ⟨columnFor entry.1 entry.2, found, Typing.accepts_iff_eq_standard.2 rfl⟩
  · -- Every column but the key may be empty.
    rw [lookup_cons]
    by_cases other : c.name = keyColumn
    · rw [if_pos other]
      rfl
    · have found : u.column? c.name = some c := find?_name_of_mem aligned.well.distinct held
      rw [columns_of_aligned records aligned timestamp other,
        Option.map_eq_some_iff] at found
      obtain ⟨type, -, same⟩ := found
      rw [← same] at required
      cases required

/-- The key of the new record is in no row yet. -/
private theorem hasKey_of_aligned (later : ∀ e ∈ h, e.timestamp < timestamp) :
    u.hasKey (.long timestamp) = false := by
  refine List.any_eq_false.2 fun row held => ?_
  obtain ⟨i, there⟩ := List.mem_iff_getElem?.1 held
  have within : i < h.length := by
    rw [← records.rows, ← aligned.rows]
    exact (List.getElem?_eq_some_iff.1 there).1
  have key := keys_of_aligned records aligned once (List.getElem?_eq_getElem within)
  rw [cell?_eq aligned.well.width, there, Option.bind_some] at key
  have own : u.keyOf row = some (.long h[i].timestamp) := by
    rw [keyOf_eq aligned.well.distinct (aligned.well.width row held), aligned.keyed, records.keyed,
      Option.bind_some, key]
    rfl
  have less := later h[i] (List.getElem_mem within)
  have apart : h[i].timestamp ≠ timestamp := fun same => Int64.lt_irrefl (same ▸ less)
  simp [rowHasKey, own, Value.equals, apart]

/-- A table that was brought in line with a record takes its row, and is then the table of the
longer history. -/
theorem Records.more (later : ∀ e ∈ h, e.timestamp < timestamp) :
    ∃ row, u.rowOf ((keyColumn, .long timestamp) :: values) = .ok row ∧
      (∀ key, u.keyOf row = some key → u.hasKey key = false) ∧
      (u.grow [row]).Records (h ++ [⟨timestamp, values⟩]) := by
  have takes := takes_of_aligned records aligned once timestamp
  obtain ⟨row, made⟩ : ∃ row, u.rowOf ((keyColumn, .long timestamp) :: values) = .ok row :=
    ⟨_, rowOf_ok_iff.2 ⟨takes, rfl⟩⟩
  have fresh : ∀ key, u.keyOf row = some key → u.hasKey key = false := by
    intro key keyed
    rw [keyOf_rowOf aligned.well made, aligned.keyed, records.keyed, Option.bind_some, lookup_cons,
      if_pos rfl, Option.some.injEq] at keyed
    exact keyed ▸ hasKey_of_aligned records aligned once later
  refine ⟨row, made, fresh, ?_⟩
  have size : u.rows.length = h.length := aligned.rows.trans records.rows
  have last := cell?_grow_last aligned.well made
  rw [size] at last
  refine ⟨wellFormed_grow aligned.well fun _ held => ⟨_, List.mem_singleton.1 held ▸ made⟩, ?_,
    aligned.keyed.trans records.keyed,
    fun name other => columns_of_aligned records aligned timestamp other, fun i e there => ?_,
    fun i within name other => ?_⟩
  · simp [grow, size]
  · rcases Nat.lt_or_ge i h.length with earlier | last_one
    · rw [List.getElem?_append_left earlier] at there
      rw [cell?_grow_of_lt (size ▸ earlier)]
      exact keys_of_aligned records aligned once there
    · have within := (List.getElem?_eq_some_iff.1 there).1
      rw [List.length_append, List.length_singleton] at within
      obtain rfl : i = h.length := by omega
      rw [List.getElem?_concat_length, Option.some.injEq] at there
      rw [last, key_of_aligned records aligned, lookup_cons, if_pos rfl, ← there]
      rfl
  · rw [List.length_append, List.length_singleton] at within
    rcases Nat.lt_or_ge i h.length with earlier | last_one
    · rw [cell?_grow_of_lt (size ▸ earlier)]
      exact cells_of_aligned records aligned earlier other
    · obtain rfl : i = h.length := by omega
      rw [last, lookup_cons, if_neg other, History.cell_append_last,
        columns_of_aligned records aligned timestamp other, Option.map_map]
      rfl

end More
end Table
end RecordSink
