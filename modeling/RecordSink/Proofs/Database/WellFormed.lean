import RecordSink.Proofs.Database.Steps

/-! Well-formed databases. Whatever is requested, on any connections and with any faults, every
table is well formed, stays where it is once it is there, and keeps its key column. A row that was
staged for other columns does no harm, because the commit makes it for the columns that the table
has then. -/
namespace RecordSink

/-- Tables that are well formed and bear distinct names. -/
structure Catalog.WellFormed (c : Catalog) : Prop where
  once : c.OnceEach
  named : ∀ name t, c.get? name = some t → Sql.isName name = true
  tables : ∀ name t, c.get? name = some t → t.WellFormed

theorem Catalog.wellFormed_empty : Catalog.empty.WellFormed :=
  ⟨List.nodup_nil, by simp [empty, get?], by simp [empty, get?]⟩

theorem Catalog.WellFormed.set {c : Catalog} {name : String} {t : Table} (well : c.WellFormed)
    (named : Sql.isName name = true) (formed : t.WellFormed) : (c.set name t).WellFormed := by
  refine ⟨Entries.nodup_put name t well.once, fun other u held => ?_, fun other u held => ?_⟩
  all_goals
    rw [get?_set] at held
    by_cases same : other = name
  · rw [same]
    exact named
  · rw [if_neg same] at held
    exact well.named other u held
  · rw [if_pos same, Option.some.injEq] at held
    exact held ▸ formed
  · rw [if_neg same] at held
    exact well.tables other u held

/-- What one request makes of a table is well formed, if the table was. -/
theorem wellFormed_of_becomes {name : String} {held : Option Table} {u : Table}
    (becomes : Becomes name held (some u))
    (before : ∀ t, held = some t → Sql.isName name = true ∧ t.WellFormed) :
    Sql.isName name = true ∧ u.WellFormed := by
  cases becomes with
  | same => exact before u rfl
  | altered alters =>
    cases alters with
    | created named oneKey words made => exact ⟨named, Table.wellFormed_create made oneKey words⟩
    | changed change =>
      obtain ⟨named, well⟩ := before _ rfl
      exact ⟨named, Table.wellFormed_change well change⟩
  | grown rows made =>
    obtain ⟨named, well⟩ := before _ rfl
    exact ⟨named, Table.wellFormed_grow well made⟩

/-- What one request makes of a table is a table with the same key column. -/
theorem kept_of_becomes {name : String} {t : Table} {held : Option Table}
    (becomes : Becomes name (some t) held) :
    ∃ u, held = some u ∧ u.keyColumn? = t.keyColumn? := by
  cases becomes with
  | same => exact ⟨t, rfl, rfl⟩
  | altered alters =>
    cases alters with
    | changed change => exact ⟨_, rfl, Table.keyColumn?_change change⟩
  | grown rows made => exact ⟨_, rfl, rfl⟩

theorem Catalog.wellFormed_of_becomes {c d : Catalog} (well : c.WellFormed) (once : d.OnceEach)
    (becomes : ∀ name, Becomes name (c.get? name) (d.get? name)) : d.WellFormed := by
  have each : ∀ name u, d.get? name = some u → Sql.isName name = true ∧ u.WellFormed :=
    fun name u held => RecordSink.wellFormed_of_becomes (held ▸ becomes name) fun t there =>
      ⟨well.named name t there, well.tables name t there⟩
  exact ⟨once, fun name u held => (each name u held).1, fun name u held => (each name u held).2⟩

/-- A statement of names keeps tables well formed. -/
theorem Catalog.wellFormed_of_apply {c d : Catalog} {s : Sql.Statement} {n : Nat}
    (well : c.WellFormed) (names : ∀ n ∈ s.names, Sql.isName n = true)
    (applied : c.apply s = .ok (n, d)) : d.WellFormed :=
  wellFormed_of_becomes well (onceEach_of_apply well.once names applied)
    (becomes_of_apply names applied)

/-- A commit keeps tables well formed. -/
theorem Catalog.wellFormed_of_commit {c d : Catalog} {staged : List StagedRow}
    (well : c.WellFormed) (committed : c.commit staged = .ok d) : d.WellFormed :=
  wellFormed_of_becomes well (onceEach_of_commit well.once committed)
    (becomes_of_commit committed)

namespace Pool

variable {p q : Pool} {r : Request}

/-- Every step keeps the tables well formed. -/
theorem wellFormed_of_step (step : Step p r q) (well : p.database.tables.WellFormed) :
    q.database.tables.WellFormed := by
  cases step with
  | idle tables rows => exact tables ▸ well
  | executed held calm parsed applied =>
    exact Catalog.wellFormed_of_apply well (Sql.names_of_parse parsed) applied
  | staged held calm made checked => exact well
  | committed held calm committed => exact Catalog.wellFormed_of_commit well committed

theorem wellFormed_of_run (well : p.database.tables.WellFormed) (requests : List Request) :
    (p.run requests).2.database.tables.WellFormed :=
  run_keeps (fun p => p.database.tables.WellFormed) well wellFormed_of_step requests

theorem wellFormed_reachable (limit : Nat) (requests : List Request) :
    ((empty limit).run requests).2.database.tables.WellFormed :=
  wellFormed_of_run Catalog.wellFormed_empty requests

/-- A run keeps every table where it is, with its key column. -/
theorem kept_of_run {name : String} {t : Table} (held : p.database.tables.get? name = some t)
    (requests : List Request) : ∃ u, (p.run requests).2.database.tables.get? name = some u ∧
      u.keyColumn? = t.keyColumn? := by
  refine run_keeps (fun p => ∃ u, p.database.tables.get? name = some u ∧
    u.keyColumn? = t.keyColumn?) ⟨t, held, rfl⟩ ?_ requests
  rintro p r q step ⟨u, there, same⟩
  have becomes := becomes_of_step step name
  rw [there] at becomes
  obtain ⟨v, after, kept⟩ := kept_of_becomes becomes
  exact ⟨v, after, kept.trans same⟩

/-- Every table that any run of requests leads to is a well-formed one under a name, all positions
that are computed for it lie inside its rows, and whatever is requested afterwards it is still there
with the same key column. -/
theorem reachable_table_well_formed (limit : Nat) (before after : List Request) (name : String)
    (t : Table) (held : (name, t) ∈ ((empty limit).run before).2.database.tables.entries) :
    Sql.isName name = true ∧ t.WellFormed ∧ t.InRange ∧
      ∃ u, (name, u) ∈ ((empty limit).run (before ++ after)).2.database.tables.entries ∧
        u.keyColumn? = t.keyColumn? := by
  have well := wellFormed_reachable limit before
  have there := (Catalog.mem_entries_iff well.once).1 held
  obtain ⟨u, found, same⟩ := kept_of_run there after
  have formed := well.tables name t there
  refine ⟨well.named name t there, formed, formed.inRange, u, ?_, same⟩
  rw [run_append]
  exact mem_of_lookup found

/-- A table with a committed row is such a table. -/
theorem committed_table_well_formed :
    ∃ t, ("t", t) ∈ ((empty 1).run [.connect "c",
        .execute "c" "CREATE TABLE t (a INTEGER PRIMARY KEY)",
        .executeWith "c" "INSERT INTO t (a) VALUES (?)" [.integer 7],
        .commit "c"]).2.database.tables.entries ∧ t.rows = [[some (.integer 7)]] ∧ t.WellFormed := by
  have held : ("t", (⟨[⟨"a", .integer, false, true⟩], [[some (.integer 7)]]⟩ : Table)) ∈
      ((empty 1).run [.connect "c",
        .execute "c" "CREATE TABLE t (a INTEGER PRIMARY KEY)",
        .executeWith "c" "INSERT INTO t (a) VALUES (?)" [.integer 7],
        .commit "c"]).2.database.tables.entries := by
    decide +kernel
  exact ⟨_, held, rfl, (reachable_table_well_formed 1 _ [] "t" _ held).2.1⟩

end Pool
end RecordSink
