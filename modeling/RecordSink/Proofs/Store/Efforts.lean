import Mathlib.Data.List.Nodup
import Mathlib.Logic.Relation
import RecordSink.Proofs.Database.Requests
import RecordSink.Proofs.Database.WellFormed
import RecordSink.Proofs.Table.Changes
import RecordSink.Store.Reconcile

/-! The two efforts of storing a record, whatever faults are pending. An insert fails and changes no
table, or adds exactly the row of the record. A reconciliation, also one that fails half way, adds
and drops columns that the record names in the table of the record, and no rows. -/
namespace RecordSink

/-! ## Columns of a record -/

/-- The fields of a record under the names of their columns. -/
def Record.renamed (r : Record) (naming : Naming) : NamedValues :=
  r.fields.map fun (field, value) => (naming field, value)

/-- The values of the row of a record: the timestamp in the key column, and its fields. -/
def Record.rowValues (r : Record) (naming : Naming) (timestamp : Int64) : NamedValues :=
  (keyColumn, .long timestamp) :: r.renamed naming

private theorem columnsOf_ok {naming : Naming} {taken : List String} {fields columns : NamedValues}
    (named : columnsOf naming taken fields = .ok columns) :
    columns = fields.map (fun (field, value) => (naming field, value)) ∧
      ((keyColumn :: columns.map Prod.fst).map Text.upper).Nodup ∧
      ∀ name ∈ columns.map Prod.fst, Text.upper name ∉ taken.map Text.upper := by
  induction fields generalizing taken columns with
  | nil =>
    cases named
    simp
  | cons entry fields ih =>
    obtain ⟨field, value⟩ := entry
    rw [columnsOf] at named
    cases key : Text.sameFolded (naming field) keyColumn with
    | true => simp [key] at named
    | false =>
      cases shared : taken.any fun other => Text.sameFolded other (naming field) with
      | true => simp [key, shared] at named
      | false =>
        simp only [key, shared, Bool.false_eq_true, if_false, bind_ok_iff, pure_ok,
          Except.ok.injEq] at named
        obtain ⟨rest, later, rfl⟩ := named
        obtain ⟨rfl, once, apart⟩ := ih later
        have other : Text.upper (naming field) ≠ Text.upper keyColumn := by
          simpa [Text.sameFolded] using key
        have fresh : Text.upper (naming field) ∉ taken.map Text.upper := by
          simpa [Text.sameFolded] using shared
        refine ⟨rfl, ?_, ?_⟩
        · simp only [List.map_cons, List.nodup_cons, List.mem_cons, not_or] at once ⊢
          refine ⟨⟨other.symm, once.1⟩, fun again => ?_, once.2⟩
          obtain ⟨name, held, same⟩ := List.mem_map.1 again
          exact apart name held (same ▸ .head _)
        · rw [List.map_cons, List.forall_mem_cons]
          exact ⟨fresh, fun name held before => apart name held (.tail _ before)⟩

/-- The columns of a record are its fields under names that differ, from each other and from that of
the key column, also if letter case is left out of account. -/
theorem Record.columns_folded {r : Record} {naming : Naming} {columns : NamedValues}
    (named : r.columns naming = .ok columns) : columns = r.renamed naming ∧
      ((keyColumn :: columns.map Prod.fst).map Text.upper).Nodup := by
  obtain ⟨same, once, -⟩ := columnsOf_ok named
  exact ⟨same, once⟩

/-- The columns of a record are its fields under distinct names, none of them the key column. -/
theorem Record.columns_ok {r : Record} {naming : Naming} {columns : NamedValues}
    (named : r.columns naming = .ok columns) : columns = r.renamed naming ∧
      ((keyColumn :: columns.map Prod.fst).Nodup) :=
  (columns_folded named).imp_right fun once => once.of_map Text.upper

theorem Record.isWord_renamed (r : Record) :
    ∀ name ∈ (r.renamed .standard).map Prod.fst, Sql.isWord name = true := by
  intro name among
  obtain ⟨entry, there, rfl⟩ := List.mem_map.1 among
  obtain ⟨field, -, rfl⟩ := List.mem_map.1 there
  exact Sql.standard_is_word field.1

theorem Record.isWord_of_columns {r : Record} {columns : NamedValues}
    (named : r.columns .standard = .ok columns) :
    ∀ name ∈ columns.map Prod.fst, Sql.isWord name = true := by
  obtain ⟨rfl, -⟩ := Record.columns_ok named
  exact r.isWord_renamed

/-- The columns that storing a record may add or replace: its own, if it has columns at all. -/
def Record.touches (r : Record) (naming : Naming) : List String :=
  match r.columns naming with
  | .ok columns => columns.map Prod.fst
  | .error _ => []

theorem Record.touches_of_columns {r : Record} {naming : Naming} {columns : NamedValues}
    (named : r.columns naming = .ok columns) :
    r.touches naming = (r.renamed naming).map Prod.fst := by
  rw [touches, named, (Record.columns_ok named).1]

theorem Record.touches_subset (r : Record) (naming : Naming) :
    r.touches naming ⊆ (r.renamed naming).map Prod.fst := by
  cases named : r.columns naming with
  | ok columns => rw [touches_of_columns named]; exact List.Subset.refl _
  | error p => rw [touches, named]; exact List.nil_subset _

/-- Storing a record never changes the keys that are there. -/
theorem Record.keyColumn_not_touched (r : Record) (naming : Naming) :
    keyColumn ∉ r.touches naming := by
  unfold touches
  cases named : r.columns naming with
  | ok columns => exact (List.nodup_cons.1 (Record.columns_ok named).2).1
  | error p => exact List.not_mem_nil

/-! ## What is left alone -/

namespace Catalog

/-- The number of rows of the table under a name, none if there is no such table. -/
def rowCount (c : Catalog) (table : String) : Nat :=
  (c.get? table).elim 0 fun t => t.rows.length

/-- What a row holds in a column of the table under a name. -/
def cell? (c : Catalog) (table : String) (row : Nat) (name : String) : Option (Option Value) :=
  (c.get? table).bind fun t => t.cell? row name

end Catalog

/-- What efforts about some columns of a table keep: the rows of the table with their other cells,
the other tables, and the number of connections. -/
structure Database.Kept (table : String) (names : List String) (before after : Database) :
    Prop where
  rows : after.tables.rowCount table = before.tables.rowCount table
  cells : ∀ i name, name ∉ names →
    after.tables.cell? table i name = before.tables.cell? table i name
  others : ∀ other, other ≠ table → after.tables.get? other = before.tables.get? other
  well : after.tables.WellFormed
  openCount : after.openCount = before.openCount
  limit : after.limit = before.limit

namespace Database

variable {table : String} {names : List String} {a b c : Database}

theorem Kept.refl (well : a.tables.WellFormed) : Kept table names a a :=
  ⟨rfl, fun _ _ _ => rfl, fun _ _ => rfl, well, rfl, rfl⟩

theorem Kept.trans (first : Kept table names a b) (second : Kept table names b c) :
    Kept table names a c :=
  ⟨second.rows.trans first.rows, fun i name other =>
    (second.cells i name other).trans (first.cells i name other),
    fun other apart => (second.others other apart).trans (first.others other apart), second.well,
    second.openCount.trans first.openCount, second.limit.trans first.limit⟩

/-- Setting the table itself keeps everything if it keeps rows and cells. -/
theorem kept_set {u : Table} (well : (a.tables.set table u).WellFormed)
    (rows : u.rows.length = a.tables.rowCount table)
    (cells : ∀ i name, name ∉ names → u.cell? i name = a.tables.cell? table i name) :
    Kept table names a (a.withTables (a.tables.set table u)) := by
  have there : (a.tables.set table u).get? table = some u := by rw [Catalog.get?_set, if_pos rfl]
  refine ⟨?_, fun i name other => ?_, fun other apart => ?_, well, rfl, rfl⟩
  · exact (congrArg (fun held => held.elim 0 fun t : Table => t.rows.length) there).trans rows
  · exact (congrArg (fun held => held.bind fun t : Table => t.cell? i name) there).trans
      (cells i name other)
  · exact (Catalog.get?_set ..).trans (if_neg apart)

end Database

/-! ## What reconciliations do to tables -/

/-- One change on the way of a table to the shape of a record: it is made, or gains or loses a
column that the record names. -/
inductive Catalog.Reshape (table : String) (names : List String) (c : Catalog) :
    Catalog → Prop where
  | created (absent : c.get? table = none) (named : Sql.isName table = true)
      (made : Table.create [⟨keyColumn, .bigInt, true, true⟩] = .ok t) :
      Reshape table names c (c.set table t)
  | gained (held : c.get? table = some t) (among : name ∈ names) (named : Sql.isName name = true)
      (added : t.addColumn (.plain name type) = .ok u) : Reshape table names c (c.set table u)
  | lost (held : c.get? table = some t) (among : name ∈ names)
      (dropped : t.dropColumn name = .ok u) : Reshape table names c (c.set table u)

/-- Databases with the same connections, of which the later one has come from the earlier one by
such changes. -/
structure Database.Reshaped (table : String) (names : List String) (before after : Database) :
    Prop where
  tables : Relation.ReflTransGen (Catalog.Reshape table names) before.tables after.tables
  openCount : after.openCount = before.openCount
  limit : after.limit = before.limit

namespace Database

variable {table : String} {names : List String} {a b c : Database} {d : Catalog}

theorem Reshaped.refl (a : Database) : Reshaped table names a a :=
  ⟨.refl, rfl, rfl⟩

theorem Reshaped.trans (first : Reshaped table names a b) (second : Reshaped table names b c) :
    Reshaped table names a c :=
  ⟨first.tables.trans second.tables, second.openCount.trans first.openCount,
    second.limit.trans first.limit⟩

/-- Each change keeps what efforts keep. -/
theorem kept_of_reshape (well : a.tables.WellFormed) (step : a.tables.Reshape table names d) :
    a.Kept table names (a.withTables d) := by
  cases step with
  | @created t absent named made =>
    obtain ⟨-, rfl⟩ := Table.create_ok_iff.1 made
    have formed := Table.wellFormed_create made (Nat.le_refl 1)
      (List.forall_mem_singleton.2 Sql.keyColumn_is_name)
    refine kept_set (well.set named formed) ?_ fun i name _ => ?_
    · rw [Catalog.rowCount, absent]
      rfl
    · rw [Catalog.cell?, absent, Table.cell?_eq formed.width]
      rfl
  | @gained t name type u held among named added =>
    have formed := well.tables _ _ held
    refine kept_set (well.set (well.named _ _ held)
      (Table.wellFormed_addColumn formed rfl named added)) ?_ fun i other apart => ?_
    · rw [Catalog.rowCount, held]
      obtain ⟨-, -, rfl⟩ := Table.addColumn_ok_iff.1 added
      exact List.length_map _
    · have different : other ≠ name := fun same => apart (same ▸ among)
      rw [Catalog.cell?, held, Option.bind_some, Table.cell?_addColumn formed rfl named added]
      exact if_neg different
  | @lost t name u held among dropped =>
    have formed := well.tables _ _ held
    refine kept_set (well.set (well.named _ _ held) (Table.wellFormed_dropColumn formed dropped)) ?_
      fun i other apart => ?_
    · rw [Catalog.rowCount, held]
      obtain ⟨c, -, -, rfl⟩ := Table.dropColumn_ok_iff.1 dropped
      exact List.length_map _
    · have different : other ≠ name := fun same => apart (same ▸ among)
      rw [Catalog.cell?, held, Option.bind_some, Table.cell?_dropColumn formed dropped]
      exact if_neg different

/-- What each change keeps of well-formed tables, all of them keep. -/
theorem Reshaped.keeps {P : Catalog → Prop} (reshaped : Reshaped table names a b)
    (well : a.tables.WellFormed) (start : P a.tables)
    (step : ∀ {c d : Catalog}, c.WellFormed → c.Reshape table names d → P c → P d) :
    P b.tables := by
  have each : ∀ d, Relation.ReflTransGen (Catalog.Reshape table names) a.tables d →
      d.WellFormed ∧ P d := by
    intro d steps
    induction steps with
    | refl => exact ⟨well, start⟩
    | @tail c d _ change ih =>
      have kept := kept_of_reshape (a := a.withTables c) ih.1 change
      exact ⟨kept.well, step ih.1 change ih.2⟩
  exact (each b.tables reshaped.tables).2

theorem Reshaped.kept (reshaped : Reshaped table names a b) (well : a.tables.WellFormed) :
    a.Kept table names b := by
  have kept : a.Kept table names (a.withTables b.tables) :=
    @Reshaped.keeps _ _ _ _ (fun d => a.Kept table names (a.withTables d)) reshaped well
      (.refl well) fun {c _} formed change sofar =>
        sofar.trans (kept_of_reshape (a := a.withTables c) formed change)
  exact ⟨kept.rows, kept.cells, kept.others, kept.well, reshaped.openCount, reshaped.limit⟩

end Database

/-! ## Reconciliations -/

namespace Dialogue

variable {α β : Type} {table : String} {names : List String} {typing : Typing}

/-- Talk that does no more to the tables than a reconciliation of this table and these columns
may. -/
def Reshapes (table : String) (names : List String) (d : Dialogue α) : Prop :=
  Respects (fun a b => a.database.Reshaped table names b.database) d

theorem reshapes_pure (a : α) : Reshapes table names (pure a) :=
  respects_pure (fun link => .refl link.database) a

theorem Reshapes.bind {d : Dialogue α} {f : α → Dialogue β} (first : Reshapes table names d)
    (second : ∀ a, Reshapes table names (f a)) : Reshapes table names (d >>= f) :=
  Respects.bind first second Database.Reshaped.trans

/-- A statement in a context fails without changing a table, or takes effect. -/
theorem alter_cases {context : String} {s : Sql.Statement} {link : Link}
    (words : ∀ n ∈ s.names, Sql.isWord n = true) (complete : s.Complete) :
    (∃ e faults, alter context s link =
      .error e { link with database := link.database.withFaults faults }) ∨
    ∃ n tables, (∀ n ∈ s.names, Sql.isName n = true) ∧
      link.database.tables.apply s = .ok (n, tables) ∧
      alter context s link = .ok () { link with database := link.database.withTables tables } := by
  unfold alter
  rcases execute_text_cases words complete with
    ⟨e, faults, failed⟩ | ⟨n, tables, names, applied, ran⟩
  · exact .inl ⟨e.within context, faults, by rw [failed]⟩
  · exact .inr ⟨n, tables, names, applied, by rw [ran]⟩

/-- A statement reshapes as its effect does. -/
theorem reshapes_alter {context : String} {s : Sql.Statement}
    (words : ∀ n ∈ s.names, Sql.isWord n = true) (complete : s.Complete)
    (effect : ∀ c n d, (∀ n ∈ s.names, Sql.isName n = true) → Catalog.apply c s = .ok (n, d) →
      Relation.ReflTransGen (Catalog.Reshape table names) c d) :
    Reshapes table names (alter context s) := by
  intro link
  rcases alter_cases words complete with ⟨e, faults, failed⟩ | ⟨n, tables, named, applied, ran⟩
  · rw [failed]
    exact ⟨.refl, rfl, rfl⟩
  · rw [ran]
    exact ⟨effect _ n tables named applied, rfl, rfl⟩

theorem reshapes_tableExists (name : String) : Reshapes table names (tableExists name) := by
  intro link
  rw [tableExists_eq]
  cases link.database.faults.strike? "METADATA" <;> exact ⟨.refl, rfl, rfl⟩

theorem reshapes_columns (name : String) : Reshapes table names (columns name) := by
  intro link
  rw [columns_eq]
  cases link.database.faults.strike? "METADATA" <;> exact ⟨.refl, rfl, rfl⟩

theorem reshapes_create (word : Sql.isWord table = true) (context : String) :
    Reshapes table names (alter context (createStatement table)) := by
  have words : ∀ n ∈ (createStatement table).names, Sql.isWord n = true := by
    simpa [createStatement, Sql.Statement.names] using
      ⟨word, (Sql.isName_iff.1 Sql.keyColumn_is_name).1⟩
  refine reshapes_alter words (List.cons_ne_nil _ _) fun c n d named applied => ?_
  simp only [createStatement, Catalog.apply, map_ok_iff, mapError_ok_iff, Prod.mk.injEq] at applied
  obtain ⟨tables, created, -, rfl⟩ := applied
  obtain ⟨-, -, rfl⟩ | ⟨absent, -, t, made, rfl⟩ := Catalog.create_ok_iff.1 created
  · exact .refl
  · exact .single (.created absent (named table (.head _)) made)

theorem reshapes_addColumn (word : Sql.isWord table = true) {column : String}
    (spelled : Sql.isWord column = true) (among : column ∈ names) (type : ColumnType) :
    Reshapes table names (addColumn table column type) := by
  have words : ∀ n ∈ (Sql.Statement.addColumn table (.plain column type)).names,
      Sql.isWord n = true := by
    simpa [Sql.Statement.names, Column.plain] using ⟨word, spelled⟩
  refine reshapes_alter words trivial fun c n d named applied => ?_
  simp only [Catalog.apply, map_ok_iff, mapError_ok_iff, Prod.mk.injEq] at applied
  obtain ⟨tables, added, -, rfl⟩ := applied
  obtain ⟨t, held, -, u, gained, rfl⟩ := Catalog.addColumn_ok_iff.1 added
  exact .single (.gained held among (named column (.tail _ (.head _))) gained)

theorem reshapes_dropColumn (word : Sql.isWord table = true) {column : String}
    (spelled : Sql.isWord column = true) (among : column ∈ names) (context : String) :
    Reshapes table names (alter context (.dropColumn table column)) := by
  have words : ∀ n ∈ (Sql.Statement.dropColumn table column).names, Sql.isWord n = true := by
    simpa [Sql.Statement.names] using ⟨word, spelled⟩
  refine reshapes_alter words trivial fun c n d named applied => ?_
  simp only [Catalog.apply, map_ok_iff, mapError_ok_iff, Prod.mk.injEq] at applied
  obtain ⟨tables, dropped, -, rfl⟩ := applied
  obtain ⟨t, held, u, lost, rfl⟩ := Catalog.dropColumn_ok_iff.1 dropped
  exact .single (.lost held among lost)

theorem reshapes_ensureTable (word : Sql.isWord table = true) :
    Reshapes table names (ensureTable table) := by
  refine (reshapes_tableExists table).bind fun there => ?_
  cases there with
  | true => exact reshapes_pure false
  | false => exact (reshapes_create word _).bind fun _ => reshapes_pure true

theorem reshapes_ensureColumn (word : Sql.isWord table = true) {column : String}
    (spelled : Sql.isWord column = true) (among : column ∈ names)
    (live : List (String × ColumnType)) (value : Value) :
    Reshapes table names (ensureColumn typing table live column value) := by
  have add := reshapes_addColumn word spelled among (typing value.kind)
  unfold ensureColumn
  cases live.lookup column with
  | none => exact add.bind fun _ => reshapes_pure _
  | some current =>
    dsimp only
    split
    · exact reshapes_pure _
    · exact (reshapes_dropColumn word spelled among _).bind fun _ =>
        add.bind fun _ => reshapes_pure _

theorem reshapes_ensureEach (word : Sql.isWord table = true) (live : List (String × ColumnType))
    (columns : NamedValues) (spelled : ∀ name ∈ columns.map Prod.fst, Sql.isWord name = true)
    (among : ∀ name ∈ columns.map Prod.fst, name ∈ names) :
    Reshapes table names (ensureEach typing table live columns) := by
  induction columns with
  | nil => exact reshapes_pure _
  | cons entry columns ih =>
    rw [List.map_cons, List.forall_mem_cons] at spelled among
    exact (reshapes_ensureColumn word spelled.1 among.1 live entry.2).bind fun first =>
      (ih spelled.2 among.2).bind fun rest => reshapes_pure _

end Dialogue

namespace Action

variable {α β : Type} {table : String} {names : List String} {r : Record} {naming : Naming}

/-- A request that does no more to the tables than a reconciliation may. -/
def Reshapes (table : String) (names : List String) (a : Action α) : Prop :=
  Respects (fun a b => a.Reshaped table names b) a

theorem reshapes_pure (a : α) : Reshapes table names (pure a) :=
  respects_pure .refl a

theorem Reshapes.bind {a : Action α} {f : α → Action β} (first : Reshapes table names a)
    (second : ∀ x, Reshapes table names (f x)) : Reshapes table names (a >>= f) :=
  Respects.bind first second Database.Reshaped.trans

/-- A connection of its own reshapes as the talk on it does, and is closed afterwards. -/
theorem reshapes_onConnection {d : Dialogue α} (reshapes : d.Reshapes table names) :
    Reshapes table names (onConnection d) := by
  intro db
  rcases onConnection_cases d db with ⟨e, faults, refused⟩ | talked
  · rw [refused]
    exact ⟨.refl, rfl, rfl⟩
  · have reshaped := reshapes ⟨opened db, []⟩
    have released : reached (closed (d ⟨opened db, []⟩)) =
        (reached (d ⟨opened db, []⟩)).database.release := by
      cases d ⟨opened db, []⟩ <;> rfl
    rw [talked, released]
    exact ⟨reshaped.tables, congrArg (fun count => count - 1) reshaped.openCount, reshaped.limit⟩

/-- A reconciliation, whatever comes of it, changes nothing but columns that the record touches. -/
theorem reshapes_reconcile (word : Sql.isWord table = true)
    (spelled : ∀ name ∈ (r.renamed naming).map Prod.fst, Sql.isWord name = true)
    (typing : Typing) :
    Reshapes table (r.touches naming) (reconcile naming typing table r) := by
  have columns : Reshapes table (r.touches naming) (ensureColumns naming typing table r) := by
    unfold ensureColumns
    cases named : r.columns naming with
    | error p => exact fun db => .refl db
    | ok columns =>
      have touched := Record.touches_of_columns named
      obtain ⟨rfl, -⟩ := Record.columns_ok named
      rw [touched]
      exact reshapes_onConnection ((Dialogue.reshapes_columns table).bind fun live =>
        Dialogue.reshapes_ensureEach word live _ spelled fun _ held => held)
  exact (reshapes_onConnection (Dialogue.reshapes_ensureTable word)).bind fun created =>
    columns.bind fun changes => reshapes_pure _

/-! ## Inserts -/

/-- An insert fails without changing a table, or adds the row of the record. -/
theorem insertRecord_cases (word : Sql.isWord table = true)
    (spelled : ∀ name ∈ (r.renamed naming).map Prod.fst, Sql.isWord name = true)
    (timestamp : Int64) (db : Database) :
    (∃ e faults, insertRecord naming table r timestamp db = .error e (db.withFaults faults) ∧
      ∀ m, e.cause = .mismatch m →
        db.tables.rowFor ⟨table, r.rowValues naming timestamp⟩ = .error m) ∨
    ∃ row, db.tables.rowFor ⟨table, r.rowValues naming timestamp⟩ = .ok row ∧
      insertRecord naming table r timestamp db =
        .ok () (db.withTables (db.tables.appendRow table row)) := by
  unfold insertRecord
  cases named : r.columns naming with
  | error p => exact .inl ⟨_, db.faults, rfl, nofun⟩
  | ok columns =>
    obtain ⟨rfl, -⟩ := Record.columns_ok named
    have words : ∀ name ∈ table :: (r.rowValues naming timestamp).map Prod.fst,
        Sql.isWord name = true := by
      rw [Record.rowValues, List.map_cons, List.forall_mem_cons, List.forall_mem_cons]
      exact ⟨word, (Sql.isName_iff.1 Sql.keyColumn_is_name).1, spelled⟩
    exact insertRow_cases (List.cons_ne_nil _ _) words db

end Action
end RecordSink
