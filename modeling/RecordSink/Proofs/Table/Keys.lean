import RecordSink.Proofs.Table.WellFormed

/-! Distinct keys. No statement makes two keys of a well-formed table equal: a column that comes or
goes is not the key, so every row that stays has the key it had. New rows may clash with each other
or with the rows that are there, and with nothing else. -/
namespace RecordSink.Table

/-- Two rows whose keys are not equal, or one of which has no key. -/
def Apart (t : Table) (a b : Row) : Prop :=
  ∀ k l, t.keyOf a = some k → t.keyOf b = some l → k.equals l = false

/-- A table that holds no key twice. -/
def KeysDistinct (t : Table) : Prop :=
  t.rows.Pairwise t.Apart

variable {t u : Table} {c : Column} {name : String} {row : Row}

/-- A table has no key column but the one that is found. -/
theorem WellFormed.eq_of_primaryKey {k : Column} (well : t.WellFormed)
    (keyed : t.keyColumn? = some k) (held : c ∈ t.columns) (key : c.primaryKey = true) : c = k := by
  have few : (t.columns.filter Column.primaryKey).length ≤ 1 := by
    rw [← List.countP_eq_length_filter]
    exact well.oneKey
  have first : c ∈ t.columns.filter Column.primaryKey := List.mem_filter.2 ⟨held, key⟩
  have second : k ∈ t.columns.filter Column.primaryKey :=
    List.mem_filter.2 ⟨List.mem_of_find?_eq_some keyed, List.find?_some keyed⟩
  match found : t.columns.filter Column.primaryKey with
  | [] => simp [found] at first
  | [d] =>
    rw [found, List.mem_singleton] at first second
    exact first.trans second.symm
  | d :: e :: rest =>
    rw [found, List.length_cons, List.length_cons] at few
    omega

/-- The key of a row that is made is the value that it is made with for the key column. -/
theorem keyOf_rowOf {values : NamedValues} (well : t.WellFormed) (made : t.rowOf values = .ok row) :
    t.keyOf row = t.keyColumn?.bind fun k => values.lookup k.name := by
  rw [keyOf_eq well.distinct (well.inRange.made values row made)]
  cases keyed : t.keyColumn? with
  | none => rfl
  | some k =>
    have held : t.column? k.name = some k :=
      find?_name_of_mem well.distinct (List.mem_of_find?_eq_some keyed)
    rw [Option.bind_some, Option.bind_some, cellIn_rowOf made, held]
    rfl

theorem rowHasKey_iff {key : Value} :
    t.rowHasKey key row = true ↔ ∃ old, t.keyOf row = some old ∧ old.equals key = true := by
  unfold rowHasKey
  cases t.keyOf row <;> simp

/-- A table has a key exactly if a row of it has that key in the key column. -/
theorem hasKey_iff {key : Value} (well : t.WellFormed) : t.hasKey key = true ↔
    ∃ c ∈ t.columns, c.primaryKey = true ∧
      ∃ i old, t.cell? i c.name = some (some old) ∧ old.equals key = true := by
  rw [hasKey, List.any_eq_true]
  constructor
  · rintro ⟨row, held, keyed⟩
    obtain ⟨old, own, equal⟩ := rowHasKey_iff.1 keyed
    rw [keyOf_eq well.distinct (well.width row held), Option.bind_eq_some_iff] at own
    obtain ⟨c, found, cell⟩ := own
    obtain ⟨i, at_i⟩ := List.mem_iff_getElem?.1 held
    refine ⟨c, List.mem_of_find?_eq_some found, List.find?_some found, i, old, ?_, equal⟩
    rw [cell?_eq well.width, at_i]
    exact Option.join_eq_some_iff.1 cell
  · rintro ⟨c, held, key, i, old, there, equal⟩
    rw [cell?_eq well.width] at there
    obtain ⟨row, at_i, cell⟩ := Option.bind_eq_some_iff.1 there
    have stored := List.mem_of_getElem? at_i
    have found : t.keyColumn? = some c := by
      cases keyed : t.keyColumn? with
      | none => exact absurd key (List.find?_eq_none.1 keyed c held)
      | some k => rw [well.eq_of_primaryKey keyed held key]
    refine ⟨row, stored, rowHasKey_iff.2 ⟨old, ?_, equal⟩⟩
    rw [keyOf_eq well.distinct (well.width row stored), found, Option.bind_some, cell]
    rfl

/-- Values that make no row are not refused for their key. -/
theorem rowOf_ne_repeatedKey (values : NamedValues) (key : Value) (name : String) :
    t.rowOf values ≠ .error (.repeatedKey key name) := by
  have checked : ∀ seen, t.checkValues seen values ≠ .error (.repeatedKey key name) := by
    intro seen
    induction values generalizing seen with
    | nil => exact nofun
    | cons entry values ih =>
      unfold checkValues
      split
      · exact nofun
      · split_ifs
        · exact nofun
        · exact ih _
        · exact nofun
  have cell : ∀ c, cellOf values c ≠ .error (.repeatedKey key name) := by
    intro c
    unfold cellOf
    split
    · exact nofun
    · split_ifs <;> exact nofun
  intro refused
  unfold rowOf at refused
  cases values_ok : t.checkValues [] values with
  | error m =>
    rw [values_ok, error_bind] at refused
    cases refused
    exact checked [] values_ok
  | ok u =>
    rw [values_ok, ok_bind] at refused
    obtain ⟨c, -, same⟩ := mapM_error refused
    exact cell c same

theorem keyOf_addColumn (plain : c.primaryKey = false) (added : t.addColumn c = .ok u)
    (width : row.length = t.columns.length) : u.keyOf (row ++ [none]) = t.keyOf row := by
  obtain ⟨-, -, rfl⟩ := addColumn_ok_iff.1 added
  have paired : (t.columns ++ [c]).zip (row ++ [none]) = t.columns.zip row ++ [(c, none)] :=
    List.zip_append width.symm
  simp [keyOf, paired, List.find?_append, plain]

theorem keyOf_dropColumn (well : t.WellFormed) (dropped : t.dropColumn name = .ok u)
    (width : row.length = t.columns.length) :
    u.keyOf (row.eraseIdx (t.position name)) = t.keyOf row := by
  have after := wellFormed_dropColumn well dropped
  have same := keyColumn?_change (.lost dropped)
  obtain ⟨c, found, plain, rfl⟩ := dropColumn_ok_iff.1 dropped
  have narrow : (row.eraseIdx (t.position name)).length =
      (t.columns.eraseIdx (t.position name)).length := by
    rw [List.length_eraseIdx, List.length_eraseIdx, width]
  rw [keyOf_eq after.distinct narrow, keyOf_eq well.distinct width, same]
  cases keyed : t.keyColumn? with
  | none => rfl
  | some k =>
    have other : k.name ≠ name := by
      rintro rfl
      rw [column?, find?_name_of_mem well.distinct (List.mem_of_find?_eq_some keyed)] at found
      cases found
      rw [List.find?_some keyed] at plain
      cases plain
    have kept := cellIn_dropColumn well.distinct width name k.name
    rw [if_neg other] at kept
    exact congrArg Option.join kept

private theorem hasKey_map {f : Row → Row} {key : Value} (rows : u.rows = t.rows.map f)
    (same : ∀ row ∈ t.rows, u.keyOf (f row) = t.keyOf row) : u.hasKey key = t.hasKey key := by
  rw [Bool.eq_iff_iff, hasKey, hasKey, rows, List.any_map, List.any_eq_true, List.any_eq_true]
  refine exists_congr fun row => and_congr_right fun held => ?_
  rw [Function.comp_apply, rowHasKey, rowHasKey, same row held]

/-- A column that comes leaves the table the keys that it has. -/
theorem hasKey_addColumn {key : Value} (well : t.WellFormed) (plain : c.primaryKey = false)
    (added : t.addColumn c = .ok u) : u.hasKey key = t.hasKey key := by
  have same : ∀ row ∈ t.rows, u.keyOf (row ++ [none]) = t.keyOf row := fun row held =>
    keyOf_addColumn plain added (well.width row held)
  obtain ⟨-, -, rfl⟩ := addColumn_ok_iff.1 added
  exact hasKey_map rfl same

/-- A column that goes leaves the table the keys that it has. -/
theorem hasKey_dropColumn {key : Value} (well : t.WellFormed) (dropped : t.dropColumn name = .ok u) :
    u.hasKey key = t.hasKey key := by
  have same : ∀ row ∈ t.rows, u.keyOf (row.eraseIdx (t.position name)) = t.keyOf row :=
    fun row held => keyOf_dropColumn well dropped (well.width row held)
  obtain ⟨c, -, -, rfl⟩ := dropColumn_ok_iff.1 dropped
  exact hasKey_map rfl same

/-- New rows take no key away. -/
theorem hasKey_grow {key : Value} {rows : List Row} (held : t.hasKey key = true) :
    (t.grow rows).hasKey key = true := by
  rw [hasKey, grow, List.any_append]
  exact Bool.or_eq_true_iff.2 (.inl held)

/-- A statement does not make keys equal. -/
theorem keysDistinct_change (well : t.WellFormed) (change : t.Change u) (distinct : t.KeysDistinct) :
    u.KeysDistinct := by
  -- Rows that are mapped to rows with the same keys stay apart.
  have kept : ∀ f : Row → Row, (∀ row ∈ t.rows, u.keyOf (f row) = t.keyOf row) →
      (t.rows.map f).Pairwise u.Apart := by
    intro f same
    rw [List.pairwise_map]
    refine distinct.imp_of_mem fun {a b} first second apart k l keyed keyed' => ?_
    exact apart k l (same a first ▸ keyed) (same b second ▸ keyed')
  cases change with
  | gained plain named added =>
    have rows := kept _ fun row held => keyOf_addColumn plain added (well.width row held)
    obtain ⟨-, -, rfl⟩ := addColumn_ok_iff.1 added
    exact rows
  | lost dropped =>
    have rows := kept _ fun row held => keyOf_dropColumn well dropped (well.width row held)
    obtain ⟨c, -, -, rfl⟩ := dropColumn_ok_iff.1 dropped
    exact rows
  | emptied limit => exact distinct.sublist (List.drop_sublist _ _)

/-- New rows leave the keys distinct exactly if they are apart from each other and from the rest. -/
theorem keysDistinct_grow {rows : List Row} : (t.grow rows).KeysDistinct ↔
    t.KeysDistinct ∧ rows.Pairwise t.Apart ∧ ∀ a ∈ t.rows, ∀ b ∈ rows, t.Apart a b :=
  List.pairwise_append

/-- A key that the table does not have sets its row apart from the rows of the table. -/
theorem apart_of_hasKey (fresh : ∀ key, t.keyOf row = some key → t.hasKey key = false) :
    ∀ a ∈ t.rows, t.Apart a row := by
  intro a held k l keyed keyed'
  have others := List.any_eq_false.1 (fresh l keyed') a held
  simpa [rowHasKey, keyed] using others

end RecordSink.Table
