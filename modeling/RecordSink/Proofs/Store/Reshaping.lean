import RecordSink.Proofs.Database.WellFormed
import RecordSink.Proofs.Store.Reconciliations
import RecordSink.Proofs.Table.Refits

/-! What a reconciliation leaves, whatever table it meets, however columns are named and typed. The
columns that a record needs and that the table does not have as they should be are made in the order
of the record, at the end and empty; all other columns stay in their order, with everything that is
in them. The answer lists exactly these changes, and a second reconciliation finds nothing to do. -/
namespace RecordSink

/-- The column that a change has made. -/
def SchemaChange.made? : SchemaChange → Option Column
  | .createdTable => none
  | .addedColumn name type => some (.plain name type)
  | .replacedColumn name _ type => some (.plain name type)

namespace Table

/-- What is to be done so that the column of this name has the type of this value. -/
def change? (t : Table) (typing : Typing) (entry : String × Value) : Option SchemaChange :=
  match t.column? entry.1 with
  | none => some (.addedColumn entry.1 (typing entry.2.kind))
  | some c =>
    if c.type = typing entry.2.kind then none
    else some (.replacedColumn entry.1 c.type (typing entry.2.kind))

/-- What is to be done for all values, in their order. -/
def changes (t : Table) (typing : Typing) (values : NamedValues) : List SchemaChange :=
  values.filterMap (t.change? typing)

/-- Whether a column stays: no value is named like it, or one of its type. -/
def stays (typing : Typing) (values : NamedValues) (c : Column) : Bool :=
  match values.lookup c.name with
  | none => true
  | some v => decide (c.type = typing v.kind)

/-- The table after all changes. -/
def reshaped (t : Table) (typing : Typing) (values : NamedValues) : Table :=
  t.refit (stays typing values) ((t.changes typing values).filterMap SchemaChange.made?)

/-- A table that has become what it is to be for these values. -/
structure Reshapes (t : Table) (typing : Typing) (values : NamedValues) (u : Table) : Prop where
  table : u = t.reshaped typing values
  well : u.WellFormed
  others : ∀ name, name ∉ values.map Prod.fst → u.column? name = t.column? name
  typed : ∀ entry ∈ values, (u.column? entry.1).map Column.type = some (typing entry.2.kind)

variable {t u w : Table} {typing : Typing} {values : NamedValues} {name : String} {v : Value}
variable {c : Column} {done : List SchemaChange}

theorem reshapes_nil (well : t.WellFormed) : t.Reshapes typing [] t :=
  ⟨(refit_all well fun _ _ => rfl).symm, well, fun _ _ => rfl, nofun⟩

private theorem stays_cons (fresh : name ∉ values.map Prod.fst) (c : Column) :
    stays typing ((name, v) :: values) c = (stays typing [(name, v)] c && stays typing values c) := by
  unfold stays
  rw [lookup_cons, lookup_cons]
  by_cases same : c.name = name
  · have unnamed : values.lookup c.name = none := lookup_eq_none_iff.2 (same ▸ fresh)
    rw [if_pos same, if_pos same, unnamed, Bool.and_true]
  · rw [if_neg same, if_neg same]
    rfl

private theorem stays_of_made (fresh : name ∉ values.map Prod.fst) :
    ∀ c ∈ (t.changes typing [(name, v)]).filterMap SchemaChange.made?,
      stays typing values c = true := by
  have named : ∀ c ∈ (t.changes typing [(name, v)]).filterMap SchemaChange.made?, c.name = name := by
    intro c among
    obtain ⟨change, listed, made⟩ := List.mem_filterMap.1 among
    obtain ⟨entry, only, same⟩ := List.mem_filterMap.1 listed
    cases List.mem_singleton.1 only
    unfold change? at same
    split at same
    · cases same
      cases made
      rfl
    · split at same
      · cases same
      · cases same
        cases made
        rfl
  intro c among
  rw [stays, named c among, lookup_eq_none_iff.2 fresh]

/-- Values come to a table one after the other. -/
theorem Reshapes.cons (well : t.WellFormed) (first : t.Reshapes typing [(name, v)] u)
    (rest : u.Reshapes typing values w) (fresh : name ∉ values.map Prod.fst) :
    t.Reshapes typing ((name, v) :: values) w ∧
      t.changes typing ((name, v) :: values) =
        t.changes typing [(name, v)] ++ u.changes typing values := by
  have same : ∀ entry ∈ values, u.change? typing entry = t.change? typing entry := by
    intro entry among
    have apart : entry.1 ∉ [(name, v)].map Prod.fst := by
      rw [List.map_singleton, List.mem_singleton]
      rintro rfl
      exact fresh (List.mem_map_of_mem among)
    rw [change?, change?, first.others _ apart]
  have listed : t.changes typing ((name, v) :: values) =
      t.changes typing [(name, v)] ++ u.changes typing values := by
    have later : u.changes typing values = t.changes typing values :=
      List.filterMap_congr same
    rw [later]
    exact List.filterMap_append (l := [(name, v)])
  refine ⟨⟨?_, rest.well, fun other apart => ?_, fun entry among => ?_⟩, listed⟩
  · rw [rest.table, reshaped]
    generalize u.changes typing values = later at listed
    rw [first.table, reshaped, refit_refit well, List.filter_eq_self.2 (stays_of_made fresh),
      reshaped, listed, List.filterMap_append]
    exact refit_congr fun c _ => (stays_cons fresh c).symm
  · rw [List.map_cons, List.mem_cons, not_or] at apart
    rw [rest.others _ apart.2, first.others _ (by simpa using apart.1)]
  · rcases List.mem_cons.1 among with rfl | later
    · rw [rest.others _ fresh]
      exact first.typed _ (.head _)
    · exact rest.typed entry later

/-! ### One value -/

private theorem changes_added (absent : t.column? name = none) :
    t.changes typing [(name, v)] = [.addedColumn name (typing v.kind)] := by
  simp [changes, change?, absent]

private theorem changes_kept (found : t.column? name = some c) (right : c.type = typing v.kind) :
    t.changes typing [(name, v)] = [] := by
  simp [changes, change?, found, right]

private theorem changes_replaced (found : t.column? name = some c) (wrong : c.type ≠ typing v.kind) :
    t.changes typing [(name, v)] = [.replacedColumn name c.type (typing v.kind)] := by
  simp [changes, change?, found, wrong]

private theorem stays_one (c : Column) : stays typing [(name, v)] c =
    (c.name != name || decide (c.type = typing v.kind)) := by
  unfold stays
  rw [lookup_cons]
  by_cases same : c.name = name
  · simp [same]
  · simp [same]

private theorem reshapes_kept (well : t.WellFormed) (found : t.column? name = some c)
    (right : c.type = typing v.kind) : t.Reshapes typing [(name, v)] t := by
  refine ⟨?_, well, fun _ _ => rfl, fun entry among => ?_⟩
  · rw [reshaped, changes_kept found right]
    refine (refit_all well fun d held => ?_).symm
    rw [stays_one]
    by_cases same : d.name = name
    · have own : t.column? name = some d := same ▸ find?_name_of_mem well.distinct held
      cases own.symm.trans found
      simp [right]
    · simp [same]
  · cases List.mem_singleton.1 among
    rw [found, Option.map_some, right]

private theorem reshapes_added (well : t.WellFormed) (named : Sql.isName name = true)
    (absent : t.column? name = none) (added : t.addColumn (.plain name (typing v.kind)) = .ok u) :
    t.Reshapes typing [(name, v)] u := by
  refine ⟨?_, wellFormed_addColumn well rfl named added, fun other apart => ?_, fun entry among => ?_⟩
  · rw [addColumn_eq_refit well added, reshaped, changes_added absent]
    refine refit_congr fun d held => ?_
    have apart : d.name ≠ name := fun same =>
      column?_eq_none_iff.1 absent (same ▸ List.mem_map_of_mem held)
    simp [stays_one, apart]
  · rw [column?_addColumn added]
    exact if_neg fun same => apart (List.mem_singleton.2 same)
  · cases List.mem_singleton.1 among
    rw [column?_addColumn added]
    exact congrArg _ (if_pos rfl)

private theorem reshapes_replaced (well : t.WellFormed) (named : Sql.isName name = true)
    (found : t.column? name = some c) (wrong : c.type ≠ typing v.kind)
    (dropped : t.dropColumn name = .ok u)
    (added : u.addColumn (.plain name (typing v.kind)) = .ok w) :
    t.Reshapes typing [(name, v)] w := by
  have narrow := wellFormed_dropColumn well dropped
  have gone : u.column? name = none := by rw [column?_dropColumn well dropped, if_pos rfl]
  have again := reshapes_added narrow named gone added
  refine ⟨?_, again.well, fun other apart => ?_, again.typed⟩
  · rw [addColumn_eq_refit narrow added, dropColumn_eq_refit well dropped, refit_refit well,
      reshaped, changes_replaced found wrong]
    refine refit_congr fun d held => ?_
    rw [stays_one]
    by_cases same : d.name = name
    · have own : t.column? name = some d := same ▸ find?_name_of_mem well.distinct held
      cases own.symm.trans found
      simp [same, wrong]
    · simp [same]
  · rw [again.others other apart, column?_dropColumn well dropped]
    exact if_neg fun same => apart (List.mem_singleton.2 same)

/-- Mending a table for one value reshapes it for that value, and does just what is to be done. -/
private theorem reshapes_of_mends (well : t.WellFormed) (named : Sql.isName name = true)
    (mends : Mends typing name v t done u) :
    t.Reshapes typing [(name, v)] u ∧ done = t.changes typing [(name, v)] := by
  cases mends with
  | kept found right => exact ⟨reshapes_kept well found right, (changes_kept found right).symm⟩
  | added absent added => exact ⟨reshapes_added well named absent added, (changes_added absent).symm⟩
  | replaced found wrong dropped added =>
    exact ⟨reshapes_replaced well named found wrong dropped added, (changes_replaced found wrong).symm⟩

/-- Mending a table reshapes it, and does just what is to be done. -/
theorem reshapes_of_mendsAll (well : t.WellFormed)
    (named : ∀ name ∈ values.map Prod.fst, Sql.isName name = true)
    (once : (values.map Prod.fst).Nodup) (mends : MendsAll typing t values done u) :
    t.Reshapes typing values u ∧ done = t.changes typing values := by
  induction mends with
  | nil => exact ⟨reshapes_nil well, rfl⟩
  | @cons name v t first u values more w mended rest ih =>
    rw [List.map_cons, List.nodup_cons] at once
    rw [List.map_cons, List.forall_mem_cons] at named
    obtain ⟨one, rfl⟩ := reshapes_of_mends well named.1 mended
    obtain ⟨others, rfl⟩ := ih one.well named.2 once.2
    obtain ⟨both, listed⟩ := one.cons well others once.1
    exact ⟨both, listed.symm⟩

end Table

namespace Dialogue

/-- Columns that all have the types of their values are left alone. -/
theorem ensureEach_right (typing : Typing) (table : String) (link : Link)
    {live : List (String × ColumnType)} {values : NamedValues}
    (right : ∀ entry ∈ values, live.lookup entry.1 = some (typing entry.2.kind)) :
    ensureEach typing table live values link = .ok [] link := by
  induction values with
  | nil => rfl
  | cons entry values ih =>
    obtain ⟨first, rest⟩ := List.forall_mem_cons.1 right
    have kept : ensureColumn typing table live entry.1 entry.2 link = .ok [] link := by
      rw [ensureColumn, first]
      exact congrFun (if_pos rfl) link
    rw [ensureEach, bind_apply, kept]
    simp only [bind_apply, ih rest]
    rfl

end Dialogue

namespace Action

variable {db : Database} {table : String} {held : Option Table} {naming : Naming} {typing : Typing}
variable {r : Record} {values : NamedValues} {t : Table}

/-- A reconciliation makes the table unless it is there, and reshapes it. -/
theorem reconcile_reshapes (pliant : db.Pliant) (table_ok : Sql.isName table = true)
    (named : r.columns naming = .ok values)
    (names : ∀ name ∈ values.map Prod.fst, Sql.isName name = true)
    (found : db.tables.get? table = held) (well : (held.getD .blank).WellFormed)
    (optional : ∀ name ∈ values.map Prod.fst, ∀ c, (held.getD .blank).column? name = some c →
      c.primaryKey = false) :
    ∃ tables u, reconcile naming typing table r db =
        .ok ((if held.isNone then [.createdTable] else []) ++
          (held.getD .blank).changes typing values) (db.withTables tables) ∧
      tables.Apart db.tables table (some u) ∧ (held.getD .blank).Reshapes typing values u := by
  obtain ⟨_, tables, u, ran, apart, mends⟩ := reconcile_mends typing pliant table_ok named names
    found well optional
  have once := (List.nodup_cons.1 (Record.columns_ok named).2).2
  obtain ⟨reshapes, rfl⟩ := Table.reshapes_of_mendsAll well names once mends
  exact ⟨tables, u, ran, apart, reshapes⟩

/-- Where all columns have the types of their values, there is nothing to do. -/
theorem reconcile_right (pliant : db.Pliant) (named : r.columns naming = .ok values)
    (found : db.tables.get? table = some t)
    (right : ∀ entry ∈ values, (t.column? entry.1).map Column.type = some (typing entry.2.kind)) :
    reconcile naming typing table r db = .ok [] db := by
  have connected : db.faults.pending "CONNECT" = 0 := pliant.sparing _ (by decide) (by decide)
  have apart : db.tables.Apart db.tables table (some t) :=
    found ▸ Catalog.apart_self db.tables table
  have first : ensureTable table db = .ok false db := by
    rw [ensureTable, onConnection_quiet pliant.free connected,
      Dialogue.ensureTable_there ⟨opened db, []⟩ pliant.sparing apart]
    rfl
  have second : ensureColumns naming typing table r db = .ok [] db := by
    rw [ensureColumns, named]
    change onConnection _ _ = _
    rw [onConnection_quiet pliant.free connected, bind_apply,
      Dialogue.columns_quiet ⟨opened db, []⟩ pliant.sparing apart]
    have kept := Dialogue.ensureEach_right typing table ⟨opened db, []⟩
      fun entry among => (Table.lookup_shape t entry.1).trans (right entry among)
    simp only [kept]
    rfl
  rw [reconcile, bind_apply, first]
  simp only [bind_apply, second]
  rfl

/-- **A reconciliation does what it says, and is done once.** On whatever tables requests have led
to, a missing table is made with its key column, the columns that a record needs are put right in
the order of the record, everything else stays, and the answer lists the changes. Afterwards there
is nothing left to do. -/
theorem reconcile_puts_right (limit : Nat) (requests : List Request) (db : Database)
    (reached : db = ((Pool.empty limit).run requests).2.database) (calm : db.Calm)
    (naming : Naming) (typing : Typing) (table : String) (table_ok : Sql.isName table = true)
    (r : Record) (values : NamedValues) (named : r.columns naming = .ok values)
    (names : ∀ name ∈ values.map Prod.fst, Sql.isName name = true)
    (keyless : ∀ t, db.tables.get? table = some t → ∀ c ∈ t.columns, c.primaryKey = true →
      c.name ∉ values.map Prod.fst) :
    let held := db.tables.get? table
    let t := held.getD .blank
    let u := t.reshaped typing values
    ∃ tables, reconcile naming typing table r db =
        .ok ((if held.isNone then [.createdTable] else []) ++ t.changes typing values)
          (db.withTables tables) ∧
      tables.get? table = some u ∧
      (∀ other, other ≠ table → tables.get? other = db.tables.get? other) ∧
      (∀ entry ∈ values, (u.column? entry.1).map Column.type = some (typing entry.2.kind)) ∧
      reconcile naming typing table r (db.withTables tables) = .ok [] (db.withTables tables) := by
  intro held t u
  have well : t.WellFormed := by
    cases found : db.tables.get? table with
    | none =>
      have blank : t = .blank := congrArg (·.getD .blank) found
      exact blank ▸ Table.records_blank.well
    | some there =>
      have same : t = there := congrArg (·.getD .blank) found
      have formed := Pool.wellFormed_reachable limit requests
      rw [← reached] at formed
      exact same ▸ formed.tables table there found
  have optional : ∀ name ∈ values.map Prod.fst, ∀ c, t.column? name = some c →
      c.primaryKey = false := by
    intro name among c there
    obtain ⟨listed, rfl⟩ := Table.name_of_column? there
    refine Bool.eq_false_iff.2 fun key => ?_
    cases found : db.tables.get? table with
    | none =>
      have blank : t = .blank := congrArg (·.getD .blank) found
      rw [blank] at listed
      cases List.mem_singleton.1 listed
      exact (List.nodup_cons.1 (Record.columns_ok named).2).1 among
    | some old =>
      have same : t = old := congrArg (·.getD .blank) found
      exact keyless old found c (same ▸ listed) key among
  obtain ⟨tables, w, ran, apart, reshapes⟩ := reconcile_reshapes calm.pliant table_ok named names rfl
    well optional
  obtain rfl : w = u := reshapes.table
  refine ⟨tables, ran, apart.get, fun other different => (apart other).trans (if_neg different),
    reshapes.typed, ?_⟩
  exact reconcile_right ⟨calm.free, calm.pliant.sparing⟩ named apart.get reshapes.typed

/-- A column of another type is replaced, a missing one is added, and the others stay. -/
theorem drifted_column_put_right :
    let db := ((Pool.empty 1).run [.connect "c",
      .execute "c" "CREATE TABLE t (k INTEGER PRIMARY KEY, a VARCHAR, b BOOLEAN NOT NULL)",
      .executeWith "c" "INSERT INTO t (k, a, b) VALUES (?, ?, ?)"
        [.integer 1, .string "x", .boolean true],
      .commit "c", .close "c"]).2.database
    let values : NamedValues := [("d", .long 3), ("a", .integer 5), ("b", .boolean false)]
    ∃ tables, reconcile .standard .standard "t" ⟨values, by decide⟩ db =
        .ok [.addedColumn "d" .bigInt, .replacedColumn "a" .varchar .integer]
          (db.withTables tables) ∧
      tables.get? "t" = some ⟨[⟨"k", .integer, false, true⟩, ⟨"b", .boolean, true, false⟩,
        .plain "d" .bigInt, .plain "a" .integer],
        [[some (.integer 1), some (.boolean true), none, none]]⟩ := by
  intro db values
  let old : Table := ⟨[⟨"k", .integer, false, true⟩, .plain "a" .varchar,
    ⟨"b", .boolean, true, false⟩],
    [[some (.integer 1), some (.string "x"), some (.boolean true)]]⟩
  have origin : db = ((Pool.empty 1).run _).2.database := rfl
  have reached : db = ⟨⟨[("t", old)]⟩, .none, 0, 1⟩ := by decide +kernel
  clear_value db
  have calm : db.Calm := by
    rw [reached]
    exact ⟨by decide, fun _ => rfl⟩
  have found : db.tables.get? "t" = some old := by rw [reached]; rfl
  obtain ⟨tables, ran, there, -⟩ := reconcile_puts_right 1 _ db origin calm .standard .standard "t"
    (by decide) ⟨values, by decide⟩ values (by decide +kernel) (by decide +kernel) fun t held => by
      cases found.symm.trans held
      decide
  rw [found] at ran there
  exact ⟨tables, ran, there⟩

end Action
end RecordSink
