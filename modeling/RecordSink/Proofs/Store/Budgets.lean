import RecordSink.Proofs.Store.Runs
import RecordSink.Proofs.Table.Timestamps

/-! The budget of a write. Of the three attempts one is lost to each fault at an insert and to each
fault at a commit, and one to a table that does not suit the record, unless a fault at an insert
hides that. A single reconciliation makes the table suit, and none of the lost attempts adds a row,
so the next attempt finds the keys of the table below its timestamp again. -/
namespace RecordSink

namespace Table

/-- A table that records can be written to: its key is the column of timestamps, and no other column
has to be filled. -/
structure Writable (t : Table) : Prop where
  keyed : ∃ notNull, t.keyColumn? = some ⟨keyColumn, .bigInt, notNull, true⟩
  optional : ∀ c ∈ t.columns, c.notNull = true → c.name = keyColumn

/-- Whether the table has a column of the mapped type for each of these values. -/
def suits (t : Table) (values : NamedValues) : Bool :=
  values.all fun (name, value) => t.shape.lookup name == some (Typing.standard value.kind)

variable {t u : Table} {values : NamedValues}

theorem suits_iff : t.suits values = true ↔
    ∀ entry ∈ values, ∃ c, t.column? entry.1 = some c ∧ c.type = Typing.standard entry.2.kind := by
  simp only [suits, List.all_eq_true, beq_iff_eq, lookup_shape, Option.map_eq_some_iff]

theorem writable_blank : blank.Writable := by
  refine ⟨⟨true, rfl⟩, fun c held _ => ?_⟩
  rw [List.mem_singleton.1 held]

theorem Writable.stamped (writable : t.Writable) : t.Stamped := by
  obtain ⟨notNull, keyed⟩ := writable.keyed
  exact ⟨_, keyed, rfl, rfl⟩

section Writable

variable (well : t.WellFormed) (writable : t.Writable)
include well writable

/-- Only the key has to be filled. -/
theorem Writable.name_of_required {c : Column} (held : c ∈ t.columns)
    (required : c.required = true) : c.name = keyColumn := by
  obtain ⟨notNull, keyed⟩ := writable.keyed
  rw [Column.required, Bool.or_eq_true] at required
  rcases required with filled | key
  · exact writable.optional c held filled
  · rw [well.eq_of_primaryKey keyed held key]

theorem Writable.plain {name : String} {c : Column} (other : name ≠ keyColumn)
    (found : t.column? name = some c) : c = .plain name c.type := by
  obtain ⟨held, same⟩ := name_of_column? found
  have free : c.required = false := by
    rw [Bool.eq_false_iff]
    intro required
    exact other (same.symm.trans (writable.name_of_required well held required))
  rw [Column.required, Bool.or_eq_false_iff] at free
  obtain ⟨own, type, notNull, primaryKey⟩ := c
  obtain rfl : own = name := same
  obtain ⟨rfl, rfl⟩ : notNull = false ∧ primaryKey = false := free
  rfl

/-- The values of a record and a timestamp make a row exactly if the table suits the record. -/
theorem Writable.takes_iff (timestamp : Int64) (once : (keyColumn :: values.map Prod.fst).Nodup) :
    t.Takes ((keyColumn, .long timestamp) :: values) ↔ t.suits values = true := by
  rw [suits_iff]
  constructor
  · intro takes entry held
    obtain ⟨c, found, fits⟩ := takes.typed entry (.tail _ held)
    exact ⟨c, found, Typing.accepts_iff_eq_standard.1 fits⟩
  · intro suits
    obtain ⟨notNull, keyed⟩ := writable.keyed
    have key : t.column? keyColumn = some ⟨keyColumn, .bigInt, notNull, true⟩ :=
      find?_name_of_mem well.distinct (List.mem_of_find?_eq_some keyed)
    refine ⟨once, List.forall_mem_cons.2 ⟨⟨_, key, rfl⟩, fun entry held => ?_⟩,
      fun c held required => ?_⟩
    · obtain ⟨c, found, typed⟩ := suits entry held
      exact ⟨c, found, Typing.accepts_iff_eq_standard.2 typed⟩
    · rw [lookup_cons, if_pos (writable.name_of_required well held required)]
      rfl

/-- A table that is brought in line with a record can be written to, suits the record, and has the
timestamps it had. -/
theorem Writable.aligned (aligned : t.Aligned values u)
    (once : (keyColumn :: values.map Prod.fst).Nodup) :
    u.Writable ∧ u.suits values = true ∧ u.timestamps = t.timestamps := by
  obtain ⟨fresh, distinct⟩ := List.nodup_cons.1 once
  refine ⟨⟨?_, fun c held filled => ?_⟩, suits_iff.2 fun entry held => ?_, ?_⟩
  · rw [aligned.keyed]
    exact writable.keyed
  · have found : u.column? c.name = some c := find?_name_of_mem aligned.well.distinct held
    rw [aligned.columns] at found
    cases given : values.lookup c.name with
    | none =>
      rw [given] at found
      exact writable.optional c (name_of_column? found).1 filled
    | some v =>
      rw [given, Option.some.injEq] at found
      rw [← found] at filled
      cases filled
  · have found := aligned.columns entry.1
    rw [lookup_of_mem distinct held] at found
    exact ⟨_, found, rfl⟩
  · refine timestamps_congr well aligned.well aligned.rows fun i within => ?_
    rw [aligned.cells i within, lookup_eq_none_iff.2 fresh]

end Writable
end Table

/-- What a record misses in the table of this name: one if there is no such table or it does not
suit the record, and else nothing. -/
def Catalog.missing (c : Catalog) (table : String) (values : NamedValues) : Nat :=
  if (c.get? table).any fun t => t.suits values then 0 else 1

/-- A pending fault strikes, and the other verbs keep theirs. -/
theorem Faults.strike?_of_pending {f : Faults} {verb : String} {n : Nat}
    (pending : f.pending verb = n + 1) : ∃ g, f.strike? verb = some g ∧ g.pending verb = n ∧
      ∀ other, other ≠ verb → g.pending other = f.pending other := by
  cases struck : f.strike? verb with
  | none =>
    rw [(strike?_eq_none_iff f verb).1 struck] at pending
    cases pending
  | some g =>
    have left := pending_of_strike? struck
    refine ⟨g, rfl, ?_, fun other apart => ?_⟩
    · have own := left verb
      rw [if_pos rfl, pending] at own
      exact Nat.succ.inj own
    · have same := left other
      rwa [if_neg apart] at same

/-- Faults that strike leave fewer behind. -/
theorem Faults.Sparing.of_strike? {f g : Faults} (sparing : f.Sparing) {verb : String}
    (struck : f.strike? verb = some g) : g.Sparing := by
  intro other not_insert not_commit
  have left := pending_of_strike? struck other
  rw [sparing other not_insert not_commit] at left
  exact (Nat.add_eq_zero_iff.1 left).1

/-- A state that requests on any connections can lead to, with any faults pending. -/
def Database.Reachable (db : Database) : Prop :=
  ∃ limit requests faults, db = ((Pool.empty limit).run requests).2.database.withFaults faults

namespace Site

/-- A site at which nothing is to fail but these numbers of inserts and of commits, and where the
table, if it is there, can be written to and has only keys below the next timestamp. -/
structure Budgeted (table : String) (inserts commits : Nat) (s : Site) : Prop where
  well : s.database.tables.WellFormed
  pliant : s.database.Pliant
  inserts : s.database.faults.pending "INSERT" = inserts
  commits : s.database.faults.pending "COMMIT" = commits
  table : ∀ t, s.database.tables.get? table = some t →
    t.Writable ∧ ∀ n ∈ t.timestamps, n < s.clock.next

variable {table : String} {r : Record} {values : NamedValues} {s : Site} {i c : Nat}

/-- Faults that were used up at an insert or a commit leave a site with a smaller budget. -/
theorem Budgeted.after {f : Faults} {j d : Nat} (budgeted : s.Budgeted table i c)
    (sparing : f.Sparing) (inserts : f.pending "INSERT" = j) (commits : f.pending "COMMIT" = d) :
    Budgeted table j d ⟨s.clock.advance, s.database.withFaults f⟩ := by
  refine ⟨budgeted.well, ⟨budgeted.pliant.free, sparing⟩, inserts, commits, fun t held => ?_⟩
  obtain ⟨writable, below⟩ := budgeted.table t held
  exact ⟨writable, fun n among => Int64.lt_of_lt_of_le (below n among) s.clock.advance.last_le_next⟩

/-- The row of a record can be made exactly if nothing is missing. -/
theorem Budgeted.rowFor_cases (named : r.columns .standard = .ok values)
    (budgeted : s.Budgeted table i c) :
    (s.database.tables.missing table values = 0 ∧ ∃ row,
      s.database.tables.rowFor ⟨table, (keyColumn, .long s.clock.next) :: values⟩ = .ok row) ∨
    (s.database.tables.missing table values = 1 ∧ ∃ m,
      s.database.tables.rowFor ⟨table, (keyColumn, .long s.clock.next) :: values⟩ = .error m) := by
  obtain ⟨-, once⟩ := Record.columns_ok named
  cases made : s.database.tables.rowFor ⟨table, (keyColumn, .long s.clock.next) :: values⟩ with
  | ok row =>
    obtain ⟨t, held, fits, -⟩ := Catalog.rowFor_ok_iff.1 made
    obtain ⟨writable, -⟩ := budgeted.table t held
    have suits := (writable.takes_iff (budgeted.well.tables _ _ held) _ once).1
      (Table.rowOf_ok_iff.1 fits).1
    exact .inl ⟨by simp [Catalog.missing, held, suits], row, rfl⟩
  | error m =>
    refine .inr ⟨if_neg ?_, m, rfl⟩
    intro there
    obtain ⟨t, held, suits⟩ := (Option.any_eq_true _ _).1 there
    obtain ⟨writable, below⟩ := budgeted.table t held
    have well := budgeted.well.tables _ _ held
    have takes := (writable.takes_iff well s.clock.next once).2 suits
    obtain ⟨row, fits⟩ : ∃ row, t.rowOf ((keyColumn, .long s.clock.next) :: values) = .ok row :=
      ⟨_, Table.rowOf_ok_iff.2 ⟨takes, rfl⟩⟩
    -- The row can be made, so only its key could be in the way; but it is larger than all keys.
    have fresh : ∀ key, t.keyOf row = some key → t.hasKey key = false := by
      intro key own
      rw [writable.stamped.keyOf_rowOf well fits, Option.some.injEq] at own
      rw [← own]
      exact writable.stamped.hasKey_of_later well below
    rw [Catalog.rowFor_ok_iff.2 ⟨t, held, fits, fresh⟩] at made
    cases made

section Write

variable (table_ok : Sql.isName table = true) (named : r.columns .standard = .ok values)
variable (names : ∀ name ∈ values.map Prod.fst, Sql.isName name = true)
include table_ok named names

/-- An attempt succeeds if nothing is in the way, and otherwise uses up one of the obstacles. -/
theorem Budgeted.insert_cases (budgeted : s.Budgeted table i c) :
    (max i (s.database.tables.missing table values) + c = 0 ∧ ∃ db,
      Action.insertRecord .standard table r s.clock.next s.database = .ok () db) ∨
    ∃ e db j d, Action.insertRecord .standard table r s.clock.next s.database = .error e db ∧
      e.category ≠ .precondition ∧ Budgeted table j d ⟨s.clock.advance, db⟩ ∧
      max i (s.database.tables.missing table values) + c = j + d + 1 := by
  have sparing := budgeted.pliant.sparing
  have rows := budgeted.rowFor_cases named
  rw [Action.insertRecord_pliant budgeted.pliant table_ok named names]
  cases i with
  | succ j =>
    obtain ⟨rest, struck, inserts, others⟩ := Faults.strike?_of_pending budgeted.inserts
    have commits : rest.pending "COMMIT" = c :=
      (others "COMMIT" (by decide)).trans budgeted.commits
    have left := budgeted.after (sparing.of_strike? struck) inserts commits
    rw [struck]
    refine .inr ⟨_, _, j, c, rfl, nofun, left, ?_⟩
    rcases rows with ⟨none_missing, -⟩ | ⟨one_missing, -⟩ <;> omega
  | zero =>
    rw [(Faults.strike?_eq_none_iff _ _).2 budgeted.inserts]
    rcases rows with ⟨none_missing, row, made⟩ | ⟨one_missing, m, refused⟩
    · rw [none_missing, made]
      cases c with
      | succ d =>
        obtain ⟨rest, struck, commits, others⟩ := Faults.strike?_of_pending budgeted.commits
        have inserts : rest.pending "INSERT" = 0 :=
          (others "INSERT" (by decide)).trans budgeted.inserts
        have left := budgeted.after (sparing.of_strike? struck) inserts commits
        rw [struck]
        refine .inr ⟨_, _, 0, d, rfl, nofun, left, ?_⟩
        omega
      | zero =>
        rw [(Faults.strike?_eq_none_iff _ _).2 budgeted.commits]
        exact .inl ⟨rfl, _, rfl⟩
    · rw [one_missing, refused]
      have left := budgeted.after sparing budgeted.inserts budgeted.commits
      refine .inr ⟨_, _, 0, c, rfl, nofun, left, ?_⟩
      omega

/-- A reconciliation succeeds, takes nothing from the budget, and nothing is missing afterwards. -/
theorem Budgeted.reconciled (budgeted : s.Budgeted table i c) :
    ∃ changes db, Action.reconcile .standard .standard table r s.database = .ok changes db ∧
      Budgeted table i c ⟨s.clock, db⟩ ∧ db.tables.missing table values = 0 := by
  obtain ⟨-, once⟩ := Record.columns_ok named
  obtain ⟨held, found⟩ : ∃ held, s.database.tables.get? table = held := ⟨_, rfl⟩
  have before : (held.getD .blank).WellFormed ∧ (held.getD .blank).Writable ∧
      ∀ n ∈ (held.getD .blank).timestamps, n < s.clock.next := by
    cases held with
    | none => exact ⟨Table.records_blank.well, Table.writable_blank, nofun⟩
    | some t => exact ⟨budgeted.well.tables _ _ found, budgeted.table t found⟩
  obtain ⟨well, writable, below⟩ := before
  obtain ⟨changes, tables, u, ran, apart, aligned⟩ := Action.reconcile_pliant budgeted.pliant
    table_ok named names found well fun name c other there => writable.plain well other there
  have reshaped := Action.reshapes_reconcile (Sql.isName_iff.1 table_ok).1 r.isWord_renamed
    .standard s.database
  rw [ran] at reshaped
  obtain ⟨writable', suits, timestamps⟩ := writable.aligned well aligned once
  refine ⟨changes, s.database.withTables tables, ran, ?_, ?_⟩
  · refine ⟨(reshaped.kept budgeted.well).well, ⟨budgeted.pliant.free, budgeted.pliant.sparing⟩,
      budgeted.inserts, budgeted.commits, fun t there => ?_⟩
    obtain rfl : u = t := Option.some.inj (apart.get.symm.trans there)
    rw [timestamps]
    exact ⟨writable', below⟩
  · have there : (s.database.withTables tables).tables.get? table = some u := apart.get
    simp [Catalog.missing, there, suits]

/-- By induction on the attempts that are left: a lost attempt and the reconciliation after it take
one from what is in the way. -/
theorem tryWrite_budget (n left : Nat) (budgeted : s.Budgeted table i c) {f : Nat}
    (total : max i (s.database.tables.missing table values) + c = f) :
    if f ≤ left then (tryWrite .standard table r n left s).1 = .stored (n + f)
    else ∃ e, (tryWrite .standard table r n left s).1 = .abandoned (n + left) e := by
  induction left generalizing n s i c f with
  | zero =>
    rcases budgeted.insert_cases table_ok named names with
      ⟨clear, db, inserted⟩ | ⟨e, db, j, d, failed, -, -, more⟩
    · obtain rfl : f = 0 := by omega
      rw [if_pos (Nat.le_refl 0), tryWrite_stored (m := .standard) inserted]
      rfl
    · rw [if_neg (by omega), tryWrite_last (m := .standard) failed]
      exact ⟨e, rfl⟩
  | succ left ih =>
    rcases budgeted.insert_cases table_ok named names with
      ⟨clear, db, inserted⟩ | ⟨e, middle, j, d, failed, other, lost, more⟩
    · obtain rfl : f = 0 := by omega
      rw [if_pos (Nat.zero_le _), tryWrite_stored (m := .standard) inserted]
      rfl
    · obtain ⟨changes, db, reconciled, budgeted', complete⟩ := lost.reconciled table_ok named names
      have rest := ih (n + 1) budgeted' (f := j + d) (by rw [complete]; omega)
      rw [tryWrite_again (m := .standard) failed other reconciled]
      have count : n + f = n + 1 + (j + d) := by omega
      have bound : n + (left + 1) = n + 1 + left := by omega
      rw [count, bound]
      by_cases within : j + d ≤ left
      · rw [if_pos within] at rest
        rw [if_pos (by omega)]
        exact rest
      · rw [if_neg within] at rest
        rw [if_neg (by omega)]
        exact rest

end Write

/-- In every state that requests can lead to and with any faults at inserts and commits, a write to
a table that can be written to, or is yet to be made, is stored after as many lost attempts as it
has to lose, if these leave one of the three, and is given up at the third otherwise. -/
theorem write_retry_budget (o : Options) (table : String) (r : Record) (values : NamedValues)
    (s : Site) (reachable : s.database.Reachable)
    (target : o.table .standard = .ok table) (free_table : Sql.isReserved table = false)
    (named : r.columns .standard = .ok values)
    (free_columns : ∀ name ∈ values.map Prod.fst, Sql.isReserved name = false)
    (connection : s.database.openCount < s.database.limit)
    (sparing : ∀ verb, verb ≠ "INSERT" → verb ≠ "COMMIT" → s.database.faults.pending verb = 0)
    (writable : ∀ t, s.database.tables.get? table = some t →
      t.Writable ∧ ∀ n ∈ t.timestamps, n < s.clock.next) :
    (if max (s.database.faults.pending "INSERT") (s.database.tables.missing table values) +
        s.database.faults.pending "COMMIT" ≤ 2
      then (write .standard o r s).1 =
        .stored (max (s.database.faults.pending "INSERT") (s.database.tables.missing table values) +
          s.database.faults.pending "COMMIT" + 1)
      else ∃ e, (write .standard o r s).1 = .abandoned 3 e) ∧
    (s.database.faults.pending "INSERT" = 0 → s.database.faults.pending "COMMIT" = 0 →
      (write .standard o r s).1 = .stored (s.database.tables.missing table values + 1)) := by
  obtain ⟨limit, requests, faults, reached⟩ := reachable
  have well : s.database.tables.WellFormed := by
    rw [reached]
    exact Pool.wellFormed_reachable limit requests
  have budgeted : s.Budgeted table _ _ := ⟨well, ⟨connection, sparing⟩, rfl, rfl, writable⟩
  have table_ok : Sql.isName table = true := Sql.isName_iff.2 ⟨word_of_table target, free_table⟩
  have names : ∀ name ∈ values.map Prod.fst, Sql.isName name = true := by
    intro name among
    exact Sql.isName_iff.2 ⟨Record.isWord_of_columns named name among, free_columns name among⟩
  have outcome := tryWrite_budget table_ok named names 1 maxRetries budgeted rfl
  rw [← write_eq (m := .standard) target, Nat.add_comm 1] at outcome
  refine ⟨outcome, fun inserts commits => ?_⟩
  have few : s.database.tables.missing table values ≤ maxRetries := by
    unfold Catalog.missing maxRetries
    split <;> omega
  rw [inserts, commits, Nat.zero_max, Nat.add_zero, if_pos few] at outcome
  exact outcome

/-- A column of another type, a fault at an insert and one at a commit: the first two obstacles are
lost to one attempt, and the third attempt succeeds. -/
theorem write_stored_at_last : (write .standard (.standard "t") ⟨[("v", .integer 7)], by decide⟩
    ⟨.start fun _ => 5, ((Pool.empty 2).run [.connect "c",
      .execute "c" "CREATE TABLE WR_t (TIMESTAMP BIGINT NOT NULL PRIMARY KEY, v VARCHAR)",
      .executeWith "c" "INSERT INTO WR_t (TIMESTAMP, v) VALUES (?, ?)" [.long 4, .string "x"],
      .commit "c"]).2.database.withFaults ⟨[("INSERT", 1), ("COMMIT", 1)]⟩⟩).1 = .stored 3 := by
  generalize reached : ((Pool.empty 2).run [.connect "c",
    .execute "c" "CREATE TABLE WR_t (TIMESTAMP BIGINT NOT NULL PRIMARY KEY, v VARCHAR)",
    .executeWith "c" "INSERT INTO WR_t (TIMESTAMP, v) VALUES (?, ?)" [.long 4, .string "x"],
    .commit "c"]).2.database.withFaults ⟨[("INSERT", 1), ("COMMIT", 1)]⟩ = db
  have state : db = ⟨⟨[("WR_t", ⟨[⟨"TIMESTAMP", .bigInt, true, true⟩, .plain "v" .varchar],
      [[some (.long 4), some (.string "x")]]⟩)]⟩, ⟨[("INSERT", 1), ("COMMIT", 1)]⟩, 1, 2⟩ := by
    rw [← reached]
    decide +kernel
  have outcome := write_retry_budget (.standard "t") "WR_t" ⟨[("v", .integer 7)], by decide⟩
    [("v", .integer 7)] ⟨.start fun _ => 5, db⟩ ⟨2, _, _, reached.symm⟩ (by decide +kernel)
    (by decide +kernel) (by decide +kernel) (by decide +kernel) (by rw [state]; decide) ?_ ?_
  · rw [state] at outcome ⊢
    exact outcome.1
  · intro verb not_insert not_commit
    rw [state]
    simp [Faults.pending, Faults.left, Ne.symm not_insert, Ne.symm not_commit]
  · intro t held
    rw [state] at held
    cases held
    refine ⟨⟨⟨true, rfl⟩, by decide⟩, fun n among => ?_⟩
    obtain rfl : n = 4 := List.mem_singleton.1 among
    have below : (4 : Int64) < (Clock.start fun _ => 5).next := by decide
    exact below

end Site
end RecordSink
