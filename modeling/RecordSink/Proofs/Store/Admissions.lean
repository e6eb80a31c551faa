import RecordSink.Proofs.Store.Runs

/-! When a single insert succeeds. On a calm database only the record and its table decide: the
columns of the record must not collide, each of its values and the timestamp must have a column that
takes it, no required cell may be left over, and the key must be new. Then one row is added in which
every value stands under its own name, whatever the order of the columns; otherwise nothing
changes. -/
namespace RecordSink

/-- A table that a record can be added to with this timestamp. -/
structure Table.Admits (t : Table) (naming : Naming) (r : Record) (timestamp : Int64) : Prop where
  stamped : ∃ c, t.column? keyColumn = some c ∧ c.type = .bigInt
  fields : ∀ field value, (field, value) ∈ r.fields →
    ∃ c, t.column? (naming field) = some c ∧ c.type.accepts value = true
  filled : ∀ c ∈ t.columns, c.notNull = true ∨ c.primaryKey = true →
    c.name = keyColumn ∨ ∃ field value, (field, value) ∈ r.fields ∧ naming field = c.name
  fresh : ∀ c ∈ t.columns, c.primaryKey = true →
    ∀ key, (c.name, key) ∈ r.rowValues naming timestamp →
      ∀ i old, t.cell? i c.name = some (some old) → old.equals key = false

namespace Table

variable {t : Table} {naming : Naming} {r : Record} {timestamp : Int64} {row : Row}

/-- A row has the timestamp under the name of the key column, and each field under its own. -/
private theorem mem_rowValues_iff {name : String} {v : Value} :
    (name, v) ∈ r.rowValues naming timestamp ↔
      (name = keyColumn ∧ v = .long timestamp) ∨
        ∃ field, (field, v) ∈ r.fields ∧ naming field = name := by
  rw [Record.rowValues, List.mem_cons, Prod.mk.injEq, Record.renamed, List.mem_map]
  refine or_congr_right ⟨?_, ?_⟩
  · rintro ⟨⟨field, value⟩, there, same⟩
    cases same
    exact ⟨field, there, rfl⟩
  · rintro ⟨field, there, rfl⟩
    exact ⟨(field, v), there, rfl⟩

/-- The values of a record make a row of a table that admits the record, up to the key. -/
private theorem takes_iff (once : ((r.rowValues naming timestamp).map Prod.fst).Nodup) :
    t.Takes (r.rowValues naming timestamp) ↔
      (∃ c, t.column? keyColumn = some c ∧ c.type = .bigInt) ∧
      (∀ field value, (field, value) ∈ r.fields →
        ∃ c, t.column? (naming field) = some c ∧ c.type.accepts value = true) ∧
      ∀ c ∈ t.columns, c.notNull = true ∨ c.primaryKey = true →
        c.name = keyColumn ∨ ∃ field value, (field, value) ∈ r.fields ∧ naming field = c.name := by
  have given : ∀ name, ((r.rowValues naming timestamp).lookup name).isSome = true ↔
      name = keyColumn ∨ ∃ field value, (field, value) ∈ r.fields ∧ naming field = name := by
    intro name
    rw [Option.isSome_iff_exists]
    constructor
    · rintro ⟨v, found⟩
      rcases mem_rowValues_iff.1 (mem_of_lookup found) with ⟨same, -⟩ | ⟨field, there, same⟩
      · exact .inl same
      · exact .inr ⟨field, v, there, same⟩
    · rintro (same | ⟨field, value, there, same⟩)
      · exact ⟨_, lookup_of_mem once (mem_rowValues_iff.2 (.inl ⟨same, rfl⟩))⟩
      · exact ⟨value, lookup_of_mem once (mem_rowValues_iff.2 (.inr ⟨field, there, same⟩))⟩
  constructor
  · intro takes
    refine ⟨?_, fun field value there => ?_, fun c held required => ?_⟩
    · obtain ⟨c, found, accepts⟩ := takes.typed _ (mem_rowValues_iff.2 (.inl ⟨rfl, rfl⟩))
      exact ⟨c, found, Typing.accepts_iff_eq_standard.1 accepts⟩
    · exact takes.typed _ (mem_rowValues_iff.2 (.inr ⟨field, there, rfl⟩))
    · refine (given c.name).1 (takes.filled c held ?_)
      rwa [Column.required, Bool.or_eq_true]
  · rintro ⟨⟨c, found, typed⟩, fields, filled⟩
    refine ⟨once, fun entry held => ?_, fun c held required => ?_⟩
    · obtain ⟨name, v⟩ := entry
      rcases mem_rowValues_iff.1 held with ⟨rfl, rfl⟩ | ⟨field, there, rfl⟩
      · exact ⟨c, found, Typing.accepts_iff_eq_standard.2 typed⟩
      · exact fields field v there
    · rw [Column.required, Bool.or_eq_true] at required
      exact (given c.name).2 (filled c held required)

/-- A row that is made has a new key exactly if no row has the same value in the key column. -/
private theorem fresh_iff (well : t.WellFormed)
    (made : t.rowOf (r.rowValues naming timestamp) = .ok row) :
    (∀ key, t.keyOf row = some key → t.hasKey key = false) ↔
      ∀ c ∈ t.columns, c.primaryKey = true →
        ∀ key, (c.name, key) ∈ r.rowValues naming timestamp →
          ∀ i old, t.cell? i c.name = some (some old) → old.equals key = false := by
  have once := (rowOf_ok_iff.1 made).1.once
  rw [keyOf_rowOf well made]
  constructor
  · intro unseen c held keyed key given i old there
    cases found : t.keyColumn? with
    | none => exact absurd keyed (List.find?_eq_none.1 found c held)
    | some k =>
      obtain rfl := well.eq_of_primaryKey found held keyed
      have none_equal := unseen key (by rw [found, Option.bind_some, lookup_of_mem once given])
      rw [Bool.eq_false_iff] at none_equal ⊢
      exact fun equal => none_equal ((hasKey_iff well).2 ⟨c, held, keyed, i, old, there, equal⟩)
  · intro apart key keyed
    obtain ⟨k, found, given⟩ := Option.bind_eq_some_iff.1 keyed
    rw [Bool.eq_false_iff]
    intro taken
    obtain ⟨c, held, primary, i, old, there, equal⟩ := (hasKey_iff well).1 taken
    obtain rfl := well.eq_of_primaryKey found held primary
    rw [apart c held primary key (mem_of_lookup given) i old there] at equal
    cases equal

/-- A table admits a record exactly if it makes a row of it whose key is new. -/
theorem admits_iff {columns : NamedValues} (well : t.WellFormed)
    (named : r.columns naming = .ok columns) :
    t.Admits naming r timestamp ↔ ∃ row, t.rowOf (r.rowValues naming timestamp) = .ok row ∧
      ∀ key, t.keyOf row = some key → t.hasKey key = false := by
  have once : ((r.rowValues naming timestamp).map Prod.fst).Nodup := by
    obtain ⟨rfl, distinct⟩ := Record.columns_ok named
    exact distinct
  constructor
  · intro admits
    have takes := (takes_iff once).2 ⟨admits.stamped, admits.fields, admits.filled⟩
    have made := rowOf_ok_iff.2 ⟨takes, rfl⟩
    exact ⟨_, made, (fresh_iff well made).2 admits.fresh⟩
  · rintro ⟨row, made, unseen⟩
    obtain ⟨stamped, fields, filled⟩ := (takes_iff once).1 (rowOf_ok_iff.1 made).1
    exact ⟨stamped, fields, filled, (fresh_iff well made).1 unseen⟩

end Table

namespace Action

/-- A record that its table admits is stored: the columns of a table have names that can be
written. -/
private theorem insertRecord_admitted {db : Database} {table : String} {t : Table} {r : Record}
    {columns : NamedValues} {timestamp : Int64} (calm : db.Calm) (well : db.tables.WellFormed)
    (named : r.columns .standard = .ok columns) (there : db.tables.get? table = some t)
    (admits : t.Admits .standard r timestamp) :
    ∃ after, insertRecord .standard table r timestamp db = .ok () after := by
  obtain ⟨row, made, unseen⟩ := (Table.admits_iff (well.tables _ _ there) named).1 admits
  obtain ⟨rfl, -⟩ := Record.columns_ok named
  have names : ∀ name ∈ (r.renamed .standard).map Prod.fst, Sql.isName name = true := by
    rw [Record.renamed, List.map_map, List.forall_mem_map]
    rintro ⟨field, v⟩ among
    obtain ⟨c, found, -⟩ := admits.fields field v among
    obtain ⟨held, same⟩ := Table.name_of_column? found
    change Sql.isName (Naming.standard field) = true
    rw [← same]
    exact (well.tables _ _ there).named c held
  have fits : db.tables.rowFor ⟨table, r.rowValues .standard timestamp⟩ = .ok row :=
    Catalog.rowFor_ok_iff.2 ⟨t, there, made, unseen⟩
  rw [Record.rowValues] at fits
  rw [insertRecord_calm calm (well.named _ _ there) named names, fits]
  exact ⟨_, rfl⟩

/-- **An insert adds the row of its record exactly if the table admits the record.** On whatever
tables requests have led to, without faults and with a connection to be had, nothing else decides
whether it succeeds; what it adds is one row, at the end, and it changes no table if it fails. -/
theorem insertRecord_exactly (limit : Nat) (requests : List Request) (db : Database)
    (reached : db = ((Pool.empty limit).run requests).2.database) (calm : db.Calm)
    (table : String) (word : Sql.isWord table = true) (r : Record) (timestamp : Int64) :
    ((∃ after, insertRecord .standard table r timestamp db = .ok () after) ↔
      (∃ columns, r.columns .standard = .ok columns) ∧
        ∃ t, db.tables.get? table = some t ∧ t.Admits .standard r timestamp) ∧
    (∀ after, insertRecord .standard table r timestamp db = .ok () after →
      ∃ t row, db.tables.get? table = some t ∧
        after = db.withTables (db.tables.set table (t.append row)) ∧
        (t.append row).HoldsRecord t.rows.length .standard r timestamp) ∧
    ∀ e after, insertRecord .standard table r timestamp db = .error e after →
      after.tables = db.tables := by
  have well : db.tables.WellFormed := reached ▸ Pool.wellFormed_reachable limit requests
  have cases := insertRecord_cases word r.isWord_renamed timestamp db
  refine ⟨⟨?_, ?_⟩, ?_, ?_⟩
  · rintro ⟨after, stored⟩
    have named : ∃ columns, r.columns .standard = .ok columns := by
      cases named : r.columns .standard with
      | ok columns => exact ⟨columns, rfl⟩
      | error p =>
        rw [insertRecord_rejected named] at stored
        cases stored
    rcases cases with ⟨e, faults, failed, -⟩ | ⟨row, fits, -⟩
    · rw [failed] at stored
      cases stored
    · obtain ⟨t, there, made, unseen⟩ := Catalog.rowFor_ok_iff.1 fits
      obtain ⟨columns, accepted⟩ := named
      exact ⟨⟨columns, accepted⟩, t, there,
        (Table.admits_iff (well.tables _ _ there) accepted).2 ⟨row, made, unseen⟩⟩
  · rintro ⟨⟨columns, named⟩, t, there, admits⟩
    exact insertRecord_admitted calm well named there admits
  · intro after stored
    rcases cases with ⟨e, faults, failed, -⟩ | ⟨row, fits, added⟩
    · rw [failed] at stored
      cases stored
    · obtain ⟨t, there, made, -⟩ := Catalog.rowFor_ok_iff.1 fits
      rw [added] at stored
      cases stored
      rw [Catalog.appendRow_eq_set there]
      exact ⟨t, row, there, rfl, Table.holdsRecord_grow (well.tables _ _ there) made⟩
  · intro e after refused
    rcases cases with ⟨e', faults, failed, -⟩ | ⟨row, -, added⟩
    · rw [failed] at refused
      cases refused
      rfl
    · rw [added] at refused
      cases refused

/-- A record whose fields stand in another order than the columns, with a key among them. -/
theorem inserted_out_of_order :
    let db := ((Pool.empty 1).run [.connect "c",
      .execute "c" "CREATE TABLE t (b BOOLEAN NOT NULL, k VARCHAR PRIMARY KEY, TIMESTAMP BIGINT)",
      .execute "c" "ALTER TABLE t ADD COLUMN x DOUBLE",
      .executeWith "c" "INSERT INTO t (k, b) VALUES (?, ?)" [.string "one", .boolean false],
      .commit "c", .close "c"]).2.database
    let r : Record := ⟨[("k", .string "two"), ("b", .boolean true)], by decide⟩
    ∃ after t row, insertRecord .standard "t" r 7 db = .ok () after ∧
      db.tables.get? "t" = some t ∧ t.rows.length = 1 ∧
      after = db.withTables (db.tables.set "t" (t.append row)) ∧
      (t.append row).HoldsRecord 1 .standard r 7 := by
  intro db r
  let old : Table := ⟨[⟨"b", .boolean, true, false⟩, ⟨"k", .varchar, false, true⟩,
    .plain "TIMESTAMP" .bigInt, .plain "x" .double],
    [[some (.boolean false), some (.string "one"), none, none]]⟩
  have origin : db = ((Pool.empty 1).run _).2.database := rfl
  have reached : db = ⟨⟨[("t", old)]⟩, .none, 0, 1⟩ := by decide +kernel
  have well : db.tables.WellFormed := Pool.wellFormed_reachable 1 _
  clear_value db
  have calm : db.Calm := by
    rw [reached]
    exact ⟨by decide, fun _ => rfl⟩
  have found : db.tables.get? "t" = some old := by rw [reached]; rfl
  have named : r.columns .standard = .ok r.fields := by decide +kernel
  have made : old.rowOf (r.rowValues .standard 7) =
      .ok [some (.boolean true), some (.string "two"), some (.long 7), none] := by decide +kernel
  have admits : old.Admits .standard r 7 := by
    refine (Table.admits_iff (well.tables _ _ found) named).2 ⟨_, made, fun key keyed => ?_⟩
    cases keyed
    decide +kernel
  obtain ⟨decides, adds, -⟩ := insertRecord_exactly 1 _ db origin calm "t" (by decide) r 7
  obtain ⟨after, stored⟩ := decides.2 ⟨⟨_, named⟩, old, found, admits⟩
  obtain ⟨t, row, there, changed, holds⟩ := adds after stored
  cases found.symm.trans there
  exact ⟨after, old, row, stored, found, rfl, changed, holds⟩

end Action
end RecordSink
