import RecordSink.Proofs.Store.Reshaping

/-! Bringing the columns of a table in line takes several statements, and it may break off after any
of them, also between the two that replace a column. Whatever has been done by then, the next attempt
with the same record comes to the table that one attempt would have come to. What is left midway is
a table that can be mended to the same result: columns that have been put right need nothing more,
one that has only been dropped is added, and the others are as they were. -/
namespace RecordSink

/-! ## The statements -/

/-- The statements that give a column the wanted type, if it has this type now or is missing. -/
def alterationsFor (column : String) (wanted : ColumnType) : Option ColumnType → List Alteration
  | none => [.add column wanted]
  | some current => if current = wanted then [] else [.drop column, .add column wanted]

/-- The statements that bring all columns in line: `live` is what the table had before them. -/
def alterations (typing : Typing) (live : List (String × ColumnType)) (values : NamedValues) :
    List Alteration :=
  values.flatMap fun (column, value) =>
    alterationsFor column (typing value.kind) (live.lookup column)

namespace Dialogue

/-- Runs the statements one after the other, up to the first that fails. -/
def alterAll (table : String) : List Alteration → Dialogue Unit
  | [] => return ()
  | a :: rest => do
    alter a.context (a.statement table)
    alterAll table rest

theorem alterAll_append (table : String) (front back : List Alteration) :
    alterAll table (front ++ back) = alterAll table front >>= fun _ => alterAll table back := by
  induction front with
  | nil => rfl
  | cons a front ih => simp only [List.cons_append, alterAll, ih, bind_assoc]

private theorem ensureColumn_map (typing : Typing) (table : String)
    (live : List (String × ColumnType)) (column : String) (value : Value) :
    (fun _ => ()) <$> ensureColumn typing table live column value =
      alterAll table (alterationsFor column (typing value.kind) (live.lookup column)) := by
  unfold ensureColumn alterationsFor
  cases live.lookup column with
  | none => simp [alterAll, addColumn, Alteration.context, Alteration.statement]
  | some current =>
    by_cases right : current = typing value.kind
    · simp [right, alterAll]
    · simp [right, alterAll, addColumn, Alteration.context, Alteration.statement]

/-- But for the answer, bringing columns in line is running these statements. -/
theorem ensureEach_map (typing : Typing) (table : String) (live : List (String × ColumnType))
    (values : NamedValues) :
    (fun _ => ()) <$> ensureEach typing table live values =
      alterAll table (alterations typing live values) := by
  induction values with
  | nil => rfl
  | cons entry values ih =>
    obtain ⟨column, value⟩ := entry
    have split : alterations typing live ((column, value) :: values) =
        alterationsFor column (typing value.kind) (live.lookup column) ++
          alterations typing live values :=
      List.flatMap_cons
    rw [split, alterAll_append, ← ih, ← ensureColumn_map]
    simp [ensureEach]

end Dialogue

namespace Action

/-- Brings the columns of a table in line with a record, while something happens to the database
after so many statements. -/
def ensureColumnsDuring (event : Database → Database) (k : Nat) (naming : Naming) (typing : Typing)
    (table : String) (r : Record) : Action Unit := do
  let columns ← ofExcept .precondition (r.columns naming)
  onConnection do
    let live ← Dialogue.columns table
    let all := alterations typing live columns
    Dialogue.alterAll table (all.take k)
    modify fun link => { link with database := event link.database }
    Dialogue.alterAll table (all.drop k)

private theorem onConnection_map {α : Type} (d : Dialogue α) :
    (fun _ => ()) <$> onConnection d = onConnection ((fun _ => ()) <$> d) := by
  funext db
  rw [onConnection_eq, map_eq_pure_bind, bind_apply, onConnection_eq]
  cases connect db with
  | error e db => rfl
  | ok u db =>
    dsimp only
    rw [map_eq_pure_bind, bind_apply]
    cases d ⟨db, []⟩ <;> rfl

/-- If nothing happens, this is bringing the columns in line, but for the answer. -/
theorem ensureColumnsDuring_id (k : Nat) (naming : Naming) (typing : Typing) (table : String)
    (r : Record) : ensureColumnsDuring id k naming typing table r =
      (fun _ => ()) <$> ensureColumns naming typing table r := by
  unfold ensureColumns ensureColumnsDuring
  rw [map_bind]
  congr 1
  funext columns
  rw [onConnection_map, map_bind]
  congr 2
  funext live
  rw [Dialogue.ensureEach_map, ← List.take_append_drop k (alterations typing live columns),
    Dialogue.alterAll_append, List.take_append_drop]
  rfl

end Action

/-! ## Tables midway -/

namespace Table

/-- The statements on a table, one after the other. -/
def alterAll (t : Table) (all : List Alteration) : Except Mismatch Table :=
  all.foldlM alter t

/-- A table that is left on the way from one table to another, which it can still be mended to for
these values. -/
structure Midway (typing : Typing) (values : NamedValues) (t w b : Table) : Prop where
  mends : ∃ changes, MendsAll typing b values changes w
  well : b.WellFormed
  others : ∀ name, name ∉ values.map Prod.fst → b.column? name = t.column? name
  optional : ∀ name ∈ values.map Prod.fst, ∀ c, b.column? name = some c → c.primaryKey = false

variable {t u w b : Table} {typing : Typing} {name : String} {v : Value} {values : NamedValues}
variable {changes more : List SchemaChange}

/-- Nothing has been done yet. -/
theorem midway_start (well : t.WellFormed)
    (optional : ∀ name ∈ values.map Prod.fst, ∀ c, t.column? name = some c → c.primaryKey = false)
    (mends : MendsAll typing t values changes w) : Midway typing values t w t :=
  ⟨⟨_, mends⟩, well, fun _ _ => rfl, optional⟩

/-- A column that has been mended needs nothing more. -/
theorem column?_self_of_mends
    (optional : ∀ c, t.column? name = some c → c.primaryKey = false)
    (mends : Mends typing name v t changes u) :
    ∃ c, u.column? name = some c ∧ c.type = typing v.kind ∧ c.primaryKey = false := by
  have made : ∀ {b : Table}, b.addColumn (.plain name (typing v.kind)) = .ok u →
      u.column? name = some (.plain name (typing v.kind)) :=
    fun added => (column?_addColumn added name).trans (if_pos rfl)
  cases mends with
  | kept found right => exact ⟨_, found, right, optional _ found⟩
  | added absent added => exact ⟨_, made added, rfl, rfl⟩
  | replaced found wrong dropped added => exact ⟨_, made added, rfl, rfl⟩

theorem midway_end (well : t.WellFormed) (named : Sql.isName name = true)
    (optional : ∀ c, t.column? name = some c → c.primaryKey = false)
    (mends : Mends typing name v t changes u) : Midway typing [(name, v)] t u u := by
  obtain ⟨c, found, right, plain⟩ := column?_self_of_mends optional mends
  refine ⟨⟨_, .cons (.kept found right) .nil⟩, wellFormed_of_mends well named mends,
    fun other apart => ?_, fun other among d there => ?_⟩
  · exact column?_of_mends well mends fun same => apart (List.mem_singleton.2 same)
  · obtain rfl := List.mem_singleton.1 among
    cases found.symm.trans there
    exact plain

/-- After some of the statements for one value, the table can still be mended for it. -/
theorem midway_of_take (well : t.WellFormed) (named : Sql.isName name = true)
    (optional : ∀ c, t.column? name = some c → c.primaryKey = false)
    (mends : Mends typing name v t changes u) (k : Nat) :
    let all := alterationsFor name (typing v.kind) ((t.column? name).map Column.type)
    ∃ b, t.alterAll (all.take k) = .ok b ∧ Midway typing [(name, v)] t u b ∧
      (all.length ≤ k → b = u) := by
  intro all
  have start : Midway typing [(name, v)] t u t :=
    midway_start well (List.forall_mem_singleton.2 optional) (.cons mends .nil)
  have finish : Midway typing [(name, v)] t u u := midway_end well named optional mends
  cases mends with
  | kept found right =>
    have nothing : all = [] := by simp [all, alterationsFor, found, right]
    rw [nothing, List.take_nil]
    exact ⟨t, rfl, start, fun _ => rfl⟩
  | added absent added =>
    have one : all = [.add name (typing v.kind)] := by simp [all, alterationsFor, absent]
    rw [one]
    cases k with
    | zero => exact ⟨t, rfl, start, nofun⟩
    | succ k =>
      refine ⟨u, ?_, finish, fun _ => rfl⟩
      simp [alterAll, alter, added]
  | replaced found wrong dropped added =>
    rename_i c d
    have two : all = [.drop name, .add name (typing v.kind)] := by
      simp [all, alterationsFor, found, wrong]
    rw [two]
    match k with
    | 0 => exact ⟨t, rfl, start, nofun⟩
    | 1 =>
      -- The column is gone and not yet there again: it is all that is missing.
      have gone : d.column? name = none := by rw [column?_dropColumn well dropped, if_pos rfl]
      refine ⟨d, by simp [alterAll, alter, dropped], ⟨⟨_, .cons (.added gone added) .nil⟩,
        wellFormed_dropColumn well dropped, fun other apart => ?_, fun other among e there => ?_⟩,
        by simp⟩
      · rw [column?_dropColumn well dropped]
        exact if_neg fun same => apart (List.mem_singleton.2 same)
      · obtain rfl := List.mem_singleton.1 among
        cases gone.symm.trans there
    | k + 2 =>
      refine ⟨u, ?_, finish, fun _ => rfl⟩
      simp [alterAll, alter, dropped, added]

/-- The first value is not done with, and the others are still to come. -/
theorem Midway.first (midway : Midway typing [(name, v)] t u b) (fresh : name ∉ values.map Prod.fst)
    (optional : ∀ name ∈ values.map Prod.fst, ∀ c, t.column? name = some c → c.primaryKey = false)
    (rest : MendsAll typing u values more w) : Midway typing ((name, v) :: values) t w b := by
  obtain ⟨_, mends⟩ := midway.mends
  have apart : ∀ other, other ≠ name → b.column? other = t.column? other :=
    fun other differs => midway.others other fun same => differs (List.mem_singleton.1 same)
  refine ⟨?_, midway.well, fun other unnamed => ?_, fun other among c there => ?_⟩
  · cases mends with
    | cons one none_left =>
      cases none_left
      exact ⟨_, .cons one rest⟩
  · exact apart other fun same => unnamed (same ▸ .head _)
  · rcases List.mem_cons.1 among with rfl | later
    · exact midway.optional _ (.head _) c there
    · rw [apart other fun same => fresh (same ▸ later)] at there
      exact optional other later c there

/-- The first value is done with. -/
theorem Midway.later (well : t.WellFormed) (fresh : name ∉ values.map Prod.fst)
    (optional : ∀ c, t.column? name = some c → c.primaryKey = false)
    (mended : Mends typing name v t changes u) (midway : Midway typing values u w b) :
    Midway typing ((name, v) :: values) t w b := by
  obtain ⟨c, found, right, plain⟩ := column?_self_of_mends optional mended
  rw [← midway.others name fresh] at found
  obtain ⟨_, mends⟩ := midway.mends
  refine ⟨⟨_, .cons (.kept found right) mends⟩, midway.well, fun other unnamed => ?_,
    fun other among d there => ?_⟩
  · rw [List.map_cons, List.mem_cons, not_or] at unnamed
    rw [midway.others other unnamed.2, column?_of_mends well mended unnamed.1]
  · rcases List.mem_cons.1 among with rfl | later
    · cases found.symm.trans there
      exact plain
    · exact midway.optional other later d there

/-- After some of the statements for all values, the table can still be mended for them. -/
theorem midway_of_mendsAll (live : List (String × ColumnType)) (well : t.WellFormed)
    (named : ∀ name ∈ values.map Prod.fst, Sql.isName name = true)
    (once : (values.map Prod.fst).Nodup)
    (current : ∀ name ∈ values.map Prod.fst, live.lookup name = (t.column? name).map Column.type)
    (optional : ∀ name ∈ values.map Prod.fst, ∀ c, t.column? name = some c → c.primaryKey = false)
    (mends : MendsAll typing t values changes w) (k : Nat) :
    ∃ b, t.alterAll ((alterations typing live values).take k) = .ok b ∧
      Midway typing values t w b := by
  induction mends generalizing k with
  | nil => exact ⟨_, by rw [alterations, List.flatMap_nil, List.take_nil]; rfl,
      midway_start well optional .nil⟩
  | @cons name v t first u values more w mended rest ih =>
    rw [List.map_cons, List.nodup_cons] at once
    rw [List.map_cons, List.forall_mem_cons] at named current optional
    obtain ⟨b, altered, midway, done⟩ := midway_of_take well named.1 optional.1 mended k
    have split : alterations typing live ((name, v) :: values) =
        alterationsFor name (typing v.kind) ((t.column? name).map Column.type) ++
          alterations typing live values := by
      rw [← current.1]
      exact List.flatMap_cons
    generalize alterationsFor name (typing v.kind) ((t.column? name).map Column.type) = own at *
    have run : ∀ {d}, b.alterAll ((alterations typing live values).take (k - own.length)) = .ok d →
        t.alterAll ((alterations typing live ((name, v) :: values)).take k) = .ok d := by
      intro d later
      rw [split, List.take_append, alterAll, List.foldlM_append]
      exact bind_ok_iff.2 ⟨b, altered, later⟩
    by_cases early : k < own.length
    · rw [Nat.sub_eq_zero_of_le (Nat.le_of_lt early), List.take_zero] at run
      exact ⟨b, run rfl, midway.first once.1 optional.2 rest⟩
    · obtain rfl := done (Nat.le_of_not_lt early)
      have left : ∀ other ∈ values.map Prod.fst, b.column? other = t.column? other :=
        fun other among => column?_of_mends well mended fun same => once.1 (same ▸ among)
      obtain ⟨d, altered', midway'⟩ := ih (wellFormed_of_mends well named.1 mended) named.2 once.2
        (fun other among => left other among ▸ current.2 other among)
        (fun other among => left other among ▸ optional.2 other among) (k - own.length)
      exact ⟨d, run altered', midway'.later well once.1 optional.1 mended⟩

/-- However it is mended from there, the outcome is the same. -/
theorem Midway.eq_of_mendsAll (midway : Midway typing values t w b)
    (named : ∀ name ∈ values.map Prod.fst, Sql.isName name = true)
    (once : (values.map Prod.fst).Nodup) (mends : MendsAll typing b values changes u) : u = w := by
  obtain ⟨_, onward⟩ := midway.mends
  rw [(reshapes_of_mendsAll midway.well named once mends).1.table,
    (reshapes_of_mendsAll midway.well named once onward).1.table]

end Table

/-! ## Attempts -/

theorem column_of_alterationsFor {column : String} {wanted : ColumnType}
    {current : Option ColumnType} {a : Alteration}
    (among : a ∈ alterationsFor column wanted current) : a.column = column := by
  cases current with
  | none => rw [List.mem_singleton.1 among, Alteration.column]
  | some type =>
    rw [alterationsFor] at among
    split at among
    · cases among
    · rcases List.mem_pair.1 among with rfl | rfl <;> rfl

theorem column_mem_of_alterations {typing : Typing} {live : List (String × ColumnType)}
    {values : NamedValues} {a : Alteration} (among : a ∈ alterations typing live values) :
    a.column ∈ values.map Prod.fst := by
  obtain ⟨entry, there, own⟩ := List.mem_flatMap.1 among
  rw [column_of_alterationsFor own]
  exact List.mem_map_of_mem there

namespace Dialogue

variable {table : String} {base : Catalog} {t u : Table} {all : List Alteration}

theorem alterAll_runs (link : Link) (sparing : link.database.faults.Sparing)
    (table_ok : Sql.isName table = true) (named : ∀ a ∈ all, Sql.isName a.column = true)
    (apart : link.database.tables.Apart base table (some t)) (altered : t.alterAll all = .ok u) :
    ∃ tables, alterAll table all link =
        .ok () { link with database := link.database.withTables tables } ∧
      tables.Apart base table (some u) := by
  induction all generalizing link t with
  | nil =>
    cases altered
    exact ⟨link.database.tables, rfl, apart⟩
  | cons a all ih =>
    rw [List.forall_mem_cons] at named
    rw [Table.alterAll, List.foldlM_cons] at altered
    obtain ⟨b, first, rest⟩ := bind_ok_iff.1 altered
    obtain ⟨middle, ran, apart'⟩ := alter_runs a sparing table_ok named.1 apart first
    obtain ⟨tables, ran', apart''⟩ := ih
      { link with database := link.database.withTables middle } sparing named.2 apart' rest
    refine ⟨tables, ?_, apart''⟩
    rw [alterAll, bind_apply, ran]
    exact ran'

/-- A statement that a fault strikes fails, and those after it are not run. -/
theorem alterAll_struck {link : Link} {rest : Faults} (some_left : all ≠ [])
    (struck : link.database.faults.strike? "ALTER" = some rest) :
    ∃ e, alterAll table all link =
        .error e { link with database := link.database.withFaults rest } ∧
      e.cause = .injected "ALTER" := by
  cases all with
  | nil => exact absurd rfl some_left
  | cons a all =>
    have verb : (a.statement table).verb = "ALTER" := by cases a <;> rfl
    refine ⟨(Failure.of (.injected "ALTER")).within a.context, ?_, rfl⟩
    rw [alterAll, bind_apply, alter, execute_eq, Sql.verb_text, verb, struck]

end Dialogue

/-- One fault that is injected strikes once. -/
theorem Faults.Sparing.struck {f : Faults} (sparing : f.Sparing) :
    ∃ rest, (f.inject "ALTER" 1).strike? "ALTER" = some rest ∧ rest.Sparing := by
  have upper : Text.upper "ALTER" = "ALTER" := by decide
  cases struck : (f.inject "ALTER" 1).strike? "ALTER" with
  | none =>
    have none_pending := (strike?_eq_none_iff _ _).1 struck
    rw [pending_inject, upper, if_pos rfl] at none_pending
    cases none_pending
  | some rest =>
    refine ⟨rest, rfl, fun verb insert commit => ?_⟩
    have left := pending_of_strike? struck verb
    rw [pending_inject, upper, sparing verb insert commit] at left
    omega

namespace Action

variable {db : Database} {table : String} {naming : Naming} {typing : Typing} {r : Record}
variable {values : NamedValues} {t b : Table} {k : Nat}

/-- An attempt that a fault strikes after so many statements leaves what they have made. -/
theorem ensureColumnsDuring_struck (pliant : db.Pliant) (table_ok : Sql.isName table = true)
    (named : r.columns naming = .ok values)
    (names : ∀ name ∈ values.map Prod.fst, Sql.isName name = true)
    (found : db.tables.get? table = some t)
    (early : k < (alterations typing t.shape values).length)
    (altered : t.alterAll ((alterations typing t.shape values).take k) = .ok b) :
    ∃ e broken, ensureColumnsDuring (·.inject "ALTER" 1) k naming typing table r db =
        .error e broken ∧ e.cause = .injected "ALTER" ∧ broken.Pliant ∧
      broken.tables.Apart db.tables table (some b) := by
  have connected : db.faults.pending "CONNECT" = 0 := pliant.sparing _ (by decide) (by decide)
  have apart := found ▸ Catalog.apart_self db.tables table
  obtain ⟨tables, ran, apart'⟩ := Dialogue.alterAll_runs ⟨opened db, []⟩ pliant.sparing table_ok
    (fun a among => names _ (column_mem_of_alterations (List.mem_of_mem_take among))) apart altered
  obtain ⟨rest, struck, sparing⟩ := pliant.sparing.struck
  have some_left : (alterations typing t.shape values).drop k ≠ [] :=
    fun none_left => absurd (List.drop_eq_nil_iff.1 none_left) (Nat.not_le_of_lt early)
  obtain ⟨e, failed, cause⟩ := @Dialogue.alterAll_struck table _
    ⟨((opened db).withTables tables).inject "ALTER" 1, []⟩ rest some_left struck
  refine ⟨e, ((db.withTables tables).withFaults rest), ?_, cause, ⟨pliant.free, sparing⟩, apart'⟩
  rw [ensureColumnsDuring, named]
  change onConnection _ _ = _
  rw [onConnection_quiet pliant.free connected, bind_apply,
    Dialogue.columns_quiet ⟨opened db, []⟩ pliant.sparing apart]
  simp only [bind_apply, ran, modify_apply]
  exact congrArg closed failed

/-- **An attempt that breaks off can be resumed.** Whatever table requests have led to, and after
however many of its statements an attempt to bring the columns in line is struck, the next attempt
succeeds and comes to the same table, with the same columns in the same order and the same rows, as
an attempt that nothing strikes. Other tables are left alone by all of them. -/
theorem broken_off_attempt_resumed (limit : Nat) (requests : List Request) (db : Database)
    (reached : db = ((Pool.empty limit).run requests).2.database) (pliant : db.Pliant)
    (naming : Naming) (typing : Typing) (table : String)
    (r : Record) (values : NamedValues) (named : r.columns naming = .ok values)
    (names : ∀ name ∈ values.map Prod.fst, Sql.isName name = true)
    (t : Table) (found : db.tables.get? table = some t)
    (keyless : ∀ c ∈ t.columns, c.primaryKey = true → c.name ∉ values.map Prod.fst)
    (k : Nat) (early : k < (alterations typing t.shape values).length) :
    ∃ b w,
      t.alterAll ((alterations typing t.shape values).take k) = .ok b ∧
      (∃ changes tables, ensureColumns naming typing table r db = .ok changes (db.withTables tables) ∧
        ensureColumnsDuring id k naming typing table r db = .ok () (db.withTables tables) ∧
        tables.Apart db.tables table (some w)) ∧
      (∃ e broken, ensureColumnsDuring (·.inject "ALTER" 1) k naming typing table r db =
          .error e broken ∧ e.cause = .injected "ALTER" ∧ broken.Pliant ∧
        broken.tables.Apart db.tables table (some b)) ∧
      ∀ later : Database, later.Pliant → later.tables.get? table = some b →
        ∃ changes tables, ensureColumns naming typing table r later =
            .ok changes (later.withTables tables) ∧
          tables.Apart later.tables table (some w) := by
  have formed := Pool.wellFormed_reachable limit requests
  rw [← reached] at formed
  have well : t.WellFormed := formed.tables table t found
  have table_ok : Sql.isName table = true := formed.named table t found
  have once := (List.nodup_cons.1 (Record.columns_ok named).2).2
  have optional : ∀ name ∈ values.map Prod.fst, ∀ c, t.column? name = some c →
      c.primaryKey = false := by
    intro name among c there
    obtain ⟨listed, rfl⟩ := Table.name_of_column? there
    exact Bool.eq_false_iff.2 fun key => keyless c listed key among
  obtain ⟨changes, tables, w, ran, apart, mends⟩ := ensureColumns_mends typing pliant table_ok named
    names found well optional
  obtain ⟨b, altered, midway⟩ := Table.midway_of_mendsAll t.shape well names once
    (fun name _ => Table.lookup_shape t name) optional mends k
  refine ⟨b, w, altered, ⟨changes, tables, ran, ?_, apart⟩,
    ensureColumnsDuring_struck pliant table_ok named names found early altered, ?_⟩
  · rw [ensureColumnsDuring_id, map_eq_pure_bind, bind_apply, ran]
    rfl
  · intro later pliant' there
    obtain ⟨changes', tables', u, ran', apart', mends'⟩ := ensureColumns_mends typing pliant' table_ok
      named names there midway.well midway.optional
    obtain rfl := midway.eq_of_mendsAll names once mends'
    exact ⟨changes', tables', ran', apart'⟩

/-- An attempt breaks off when it has dropped a column of another type and not yet added it. -/
theorem dropped_column_added_later :
    let db := ((Pool.empty 1).run [.connect "c",
      .execute "c" "CREATE TABLE t (k INTEGER PRIMARY KEY, a VARCHAR, b BOOLEAN NOT NULL)",
      .executeWith "c" "INSERT INTO t (k, a, b) VALUES (?, ?, ?)"
        [.integer 1, .string "x", .boolean true],
      .commit "c", .close "c"]).2.database
    let r : Record := ⟨[("d", .long 3), ("a", .integer 5), ("b", .boolean false)], by decide⟩
    ∃ e broken, ensureColumnsDuring (·.inject "ALTER" 1) 2 .standard .standard "t" r db =
        .error e broken ∧
      broken.tables.get? "t" = some ⟨[⟨"k", .integer, false, true⟩, ⟨"b", .boolean, true, false⟩,
        .plain "d" .bigInt], [[some (.integer 1), some (.boolean true), none]]⟩ ∧
      ∃ changes tables changes' tables',
        ensureColumns .standard .standard "t" r db = .ok changes (db.withTables tables) ∧
        ensureColumns .standard .standard "t" r broken = .ok changes' (broken.withTables tables') ∧
        tables'.get? "t" = tables.get? "t" := by
  intro db r
  let old : Table := ⟨[⟨"k", .integer, false, true⟩, .plain "a" .varchar,
    ⟨"b", .boolean, true, false⟩],
    [[some (.integer 1), some (.string "x"), some (.boolean true)]]⟩
  have origin : db = ((Pool.empty 1).run _).2.database := rfl
  have reached : db = ⟨⟨[("t", old)]⟩, .none, 0, 1⟩ := by decide +kernel
  clear_value db
  have pliant : db.Pliant := by
    rw [reached]
    exact ⟨by decide, fun _ _ _ => rfl⟩
  have found : db.tables.get? "t" = some old := by rw [reached]; rfl
  obtain ⟨b, w, altered, ⟨changes, tables, ran, -, apart⟩, ⟨e, broken, failed, -, still, left⟩,
      resumes⟩ := broken_off_attempt_resumed 1 _ db origin pliant .standard .standard "t" r
    r.fields (by decide +kernel) (by decide +kernel) old found (by decide) 2 (by decide +kernel)
  obtain ⟨changes', tables', ran', apart'⟩ := resumes broken still left.get
  have midway : old.alterAll ((alterations .standard old.shape r.fields).take 2) =
      .ok ⟨[⟨"k", .integer, false, true⟩, ⟨"b", .boolean, true, false⟩, .plain "d" .bigInt],
        [[some (.integer 1), some (.boolean true), none]]⟩ := by
    decide +kernel
  cases altered.symm.trans midway
  exact ⟨e, broken, failed, left.get, changes, tables, changes', tables', ran, ran',
    apart'.get.trans apart.get.symm⟩

end Action
end RecordSink
