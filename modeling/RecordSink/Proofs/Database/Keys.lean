import Mathlib.Data.List.Induction
import RecordSink.Proofs.Database.WellFormed
import RecordSink.Proofs.Table.Keys

/-! When keys stay distinct. A row is compared with the rows that its client has staged before, but
only with those that fit their table at that moment, and a commit compares staged rows with the
table and not with each other. So two equal keys get into a table in exactly one way: a column comes
or goes while rows are staged, the second row is staged while the first does not fit, and both fit
again when they are committed. -/
namespace RecordSink

namespace Catalog

variable {c d : Catalog} {e s : StagedRow} {staged : List StagedRow}

/-- Tables that hold no key twice. -/
def KeysDistinct (c : Catalog) : Prop :=
  ∀ entry ∈ c.entries, entry.2.KeysDistinct

/-- A staged row that its table would take now. -/
def Fits (c : Catalog) (s : StagedRow) : Prop :=
  ∃ t row, c.get? s.table = some t ∧ t.rowOf s.values = .ok row

/-- Two staged rows of one table whose keys would be equal if both rows were made now. -/
def SameKey (c : Catalog) (e s : StagedRow) : Prop :=
  ∃ t row key, c.get? s.table = some t ∧ t.rowOf s.values = .ok row ∧ t.keyOf row = some key ∧
    stagedHasKey s.table t key e = true

theorem keysDistinct_iff (once : c.OnceEach) :
    c.KeysDistinct ↔ ∀ name t, c.get? name = some t → t.KeysDistinct :=
  ⟨fun distinct _ _ found => distinct _ ((mem_entries_iff once).2 found),
    fun each entry held => each entry.1 entry.2 ((mem_entries_iff once).1 held)⟩

theorem stagedHasKey_iff {name : String} {t : Table} {key : Value} :
    stagedHasKey name t key e = true ↔ e.table = name ∧
      ∃ row k, t.rowOf e.values = .ok row ∧ t.keyOf row = some k ∧ k.equals key = true := by
  unfold stagedHasKey Table.rowHasKey
  cases made : t.rowOf e.values with
  | error m => simp
  | ok row => cases keyed : t.keyOf row <;> simp [keyed]

/-- No statement makes two keys equal. -/
theorem keysDistinct_apply {statement : Sql.Statement} {n : Nat} (well : c.WellFormed)
    (names : ∀ n ∈ statement.names, Sql.isName n = true) (distinct : c.KeysDistinct)
    (applied : c.apply statement = .ok (n, d)) : d.KeysDistinct := by
  rw [keysDistinct_iff well.once] at distinct
  rw [keysDistinct_iff (onceEach_of_apply well.once names applied)]
  intro name u there
  rcases alters_of_apply names applied name with same | ⟨v, found, alters⟩
  · exact distinct name u (same ▸ there)
  · rw [there] at found
    cases found
    generalize held : c.get? name = before at alters
    cases alters with
    | created named oneKey words made =>
      obtain ⟨-, rfl⟩ := Table.create_ok_iff.1 made
      exact .nil
    | changed change =>
      exact Table.keysDistinct_change (well.tables name _ held) change (distinct name _ held)

/-! ## Commits -/

/-- New rows leave the keys of a table distinct exactly if no two of them have equal keys. -/
theorem Makes.keysDistinct_grow {made : List (String × Row)} {name : String} {t : Table}
    (makes : c.Makes staged made) (held : c.get? name = some t) (distinct : t.KeysDistinct) :
    (t.grow (rowsFor name made)).KeysDistinct ↔
      staged.Pairwise fun e s => e.table = name → s.table = name → ¬c.SameKey e s := by
  -- What a staged row of the table makes is made by that table, and is new to it.
  have row_of : ∀ {s row}, s.table = name → c.rowFor s = .ok row → t.rowOf s.values = .ok row ∧
      ∀ key, t.keyOf row = some key → t.hasKey key = false := by
    rintro s row rfl made
    obtain ⟨u, there, fits, unseen⟩ := rowFor_ok_iff.1 made
    rw [held] at there
    cases there
    exact ⟨fits, unseen⟩
  have fresh : ∀ a ∈ t.rows, ∀ b ∈ rowsFor name made, t.Apart a b := by
    intro a old b new
    obtain ⟨s, -, named, row⟩ := makes.mem_iff.1 new
    exact Table.apart_of_hasKey (row_of named row).2 a old
  have apart_iff : ∀ {e s a b}, e.table = name → s.table = name → c.rowFor e = .ok a →
      c.rowFor s = .ok b → (t.Apart a b ↔ ¬c.SameKey e s) := by
    rintro e s a b named rfl made_a made_b
    have first := (row_of named made_a).1
    have second := (row_of rfl made_b).1
    constructor
    · rintro apart ⟨u, row, key, there, fits, keyed, twice⟩
      rw [held] at there
      cases there
      obtain ⟨-, row', k, fits', keyed', equal⟩ := stagedHasKey_iff.1 twice
      cases second.symm.trans fits
      cases first.symm.trans fits'
      rw [apart k key keyed' keyed] at equal
      cases equal
    · intro differ k l keyed keyed'
      refine Bool.eq_false_iff.2 fun equal => differ ?_
      exact ⟨t, b, l, held, second, keyed', stagedHasKey_iff.2 ⟨named, a, k, first, keyed, equal⟩⟩
  have all : (t.grow (rowsFor name made)).KeysDistinct ↔ (rowsFor name made).Pairwise t.Apart := by
    rw [Table.keysDistinct_grow]
    exact ⟨fun all => all.2.1, fun apart => ⟨distinct, apart, fresh⟩⟩
  rw [all, makes.pairwise_iff, List.pairwise_iff_forall_sublist, List.pairwise_iff_forall_sublist]
  constructor
  · intro each e s pair named named'
    obtain ⟨a, made_a⟩ := makes.made_of_mem (pair.subset (.head _))
    obtain ⟨b, made_b⟩ := makes.made_of_mem (pair.subset (.tail _ (.head _)))
    exact (apart_iff named named' made_a made_b).1 (each pair named named' a b made_a made_b)
  · intro each e s pair named named' a b made_a made_b
    exact (apart_iff named named' made_a made_b).2 (each pair named named')

/-- A commit leaves distinct keys distinct exactly if no two of its rows have equal keys. -/
theorem keysDistinct_commit (once : c.OnceEach) (distinct : c.KeysDistinct)
    (committed : c.commit staged = .ok d) :
    d.KeysDistinct ↔ staged.Pairwise fun e s => ¬c.SameKey e s := by
  obtain ⟨made, makes, after⟩ := get?_commit committed
  rw [keysDistinct_iff once] at distinct
  rw [keysDistinct_iff (onceEach_of_commit once committed)]
  constructor
  · intro each
    rw [List.pairwise_iff_forall_sublist]
    rintro e s pair ⟨t, row, key, held, fits, keyed, twice⟩
    obtain ⟨named, -⟩ := stagedHasKey_iff.1 twice
    have grown := each s.table _ (by rw [after, held]; rfl)
    rw [makes.keysDistinct_grow held (distinct _ t held), List.pairwise_iff_forall_sublist] at grown
    exact grown pair named rfl ⟨t, row, key, held, fits, keyed, twice⟩
  · intro apart name u there
    rw [after] at there
    obtain ⟨t, held, rfl⟩ := Option.map_eq_some_iff.1 there
    exact (makes.keysDistinct_grow held (distinct name t held)).2
      (apart.imp fun differ _ _ => differ)

end Catalog
/-! ## Runs -/

namespace Pool

variable {limit : Nat} {client sql : String} {parameters : List Value}

/-- A client stages a row in the first pool while one that it has staged before does not fit, and
can commit both in the second pool, where both fit and have equal keys. -/
inductive Slip (p q : Pool) (client sql : String) (parameters : List Value) : Prop where
  | intro (held : p.staged? client = some earlier) (old : e ∈ earlier)
      (misfit : ¬p.database.tables.Fits e)
      (made : Dialogue.rowToStage sql parameters = .ok s)
      (checked : p.database.tables.checkStaging earlier s = .ok ())
      (kept : q.staged? client = some (earlier ++ s :: later))
      (calm : q.database.faults.pending "COMMIT" = 0)
      (committed : q.database.tables.commit (earlier ++ s :: later) = .ok tables)
      (same : q.database.tables.SameKey e s)

/-- A run in which a slip lies between the staging of a row and the commit of its client. -/
def Slips (start : Pool) (requests : List Request) : Prop :=
  ∃ before client sql parameters between after,
    requests = before ++ .executeWith client sql parameters :: (between ++ .commit client :: after) ∧
      Slip (start.run before).2
        (start.run (before ++ .executeWith client sql parameters :: between)).2
        client sql parameters

theorem run_concat (p : Pool) (before : List Request) (r : Request) :
    (p.run (before ++ [r])).2 = ((p.run before).2.serve r).2 := by
  rw [run_append]
  rfl

/-- A staged row was staged by a request of its client, after the rows that stand before it. -/
theorem staging_of_staged {requests : List Request} {earlier later : List StagedRow} {s : StagedRow}
    (held : ((empty limit).run requests).2.staged? client = some (earlier ++ s :: later)) :
    ∃ before sql parameters between,
      requests = before ++ .executeWith client sql parameters :: between ∧
      ((empty limit).run before).2.staged? client = some earlier ∧
      Dialogue.rowToStage sql parameters = .ok s ∧
      ((empty limit).run before).2.database.tables.checkStaging earlier s = .ok () := by
  induction requests using List.reverseRec generalizing later with
  | nil => cases held
  | append_singleton before r ih =>
    -- Unless this request stages the row, it was staged before.
    have earlier_on : ∀ later,
        ((empty limit).run before).2.staged? client = some (earlier ++ s :: later) →
        ∃ front sql parameters between,
          before ++ [r] = front ++ .executeWith client sql parameters :: between ∧
          ((empty limit).run front).2.staged? client = some earlier ∧
          Dialogue.rowToStage sql parameters = .ok s ∧
          ((empty limit).run front).2.database.tables.checkStaging earlier s = .ok () := by
      intro later there
      obtain ⟨front, sql, parameters, between, rfl, facts⟩ := ih there
      exact ⟨front, sql, parameters, between ++ [r], by simp, facts⟩
    rw [run_concat] at held
    have step := step_serve ((empty limit).run before).2 r
    generalize (((empty limit).run before).2.serve r).2 = q at held step
    cases step with
    | idle tables rows =>
      rcases rows _ _ held with none_left | there
      · cases List.append_ne_nil_of_right_ne_nil _ (List.cons_ne_nil _ _) none_left
      · exact earlier_on _ there
    | @executed c staged sql statement n tables there calm parsed applied =>
      rw [staged?_put] at held
      by_cases own : client = c
      · rw [if_pos own] at held
        exact earlier_on _ (own ▸ there.trans held)
      · rw [if_neg own] at held
        exact earlier_on _ held
    | @staged c staged sql parameters new there calm made checked =>
      rw [staged?_put] at held
      by_cases own : client = c
      · subst own
        rw [if_pos rfl, Option.some.injEq] at held
        rcases List.eq_nil_or_concat later with rfl | ⟨later, last, rfl⟩
        · obtain ⟨rfl, same⟩ := List.append_inj' held rfl
          cases same
          exact ⟨before, sql, parameters, [], rfl, there, made, checked⟩
        · have split : earlier ++ s :: (later ++ [last]) = (earlier ++ s :: later) ++ [last] := by
            simp
          rw [List.concat_eq_append, split] at held
          obtain ⟨rfl, -⟩ := List.append_inj' held rfl
          exact earlier_on _ there
      · rw [if_neg own] at held
        exact earlier_on _ held
    | @committed c staged tables there calm committed =>
      rw [staged?_put] at held
      by_cases own : client = c
      · rw [if_pos own] at held
        cases List.append_ne_nil_of_right_ne_nil _ (List.cons_ne_nil _ _) (Option.some.inj held).symm
      · rw [if_neg own] at held
        exact earlier_on _ held

/-- Keys that are compared when the second row is staged cannot be equal at the commit. -/
theorem misfit_of_sameKey {before after : List Request} {e s : StagedRow}
    {earlier : List StagedRow} (old : e ∈ earlier)
    (checked : ((empty limit).run before).2.database.tables.checkStaging earlier s = .ok ())
    (same : ((empty limit).run (before ++ after)).2.database.tables.SameKey e s) :
    ¬((empty limit).run before).2.database.tables.Fits e := by
  rintro ⟨t, row, held, fits⟩
  obtain ⟨u, row', key, held', fits', keyed, twice⟩ := same
  obtain ⟨named, first, k, fits_first, keyed_first, equal⟩ := Catalog.stagedHasKey_iff.1 twice
  obtain ⟨t', new, there, fits_new, unseen⟩ := Catalog.checkStaging_ok_iff.1 checked
  rw [named, there] at held
  cases held
  -- The key column is the same at both moments, so the keys are the same values.
  have well := (wellFormed_reachable limit before).tables _ _ there
  have well' := (wellFormed_reachable limit (before ++ after)).tables _ _ held'
  obtain ⟨u', found, column⟩ := kept_of_run there after
  rw [← run_append, held'] at found
  cases found
  have keyed_new : t.keyOf new = some key := by
    rw [Table.keyOf_rowOf well fits_new, ← column, ← Table.keyOf_rowOf well' fits', keyed]
  have keyed_old : t.keyOf row = some k := by
    rw [Table.keyOf_rowOf well fits, ← column, ← Table.keyOf_rowOf well' fits_first, keyed_first]
  have differ := (unseen key keyed_new).2 e old
  rw [Catalog.stagedHasKey_iff.2 ⟨named, row, k, fits, keyed_old, equal⟩] at differ
  cases differ

/-- A run has a state with a key twice in a table exactly if it slips. -/
theorem keys_distinct_iff_no_slip (limit : Nat) (requests : List Request) :
    (∀ before after, requests = before ++ after →
      ((empty limit).run before).2.database.tables.KeysDistinct) ↔
    ¬Slips (empty limit) requests := by
  constructor
  · rintro distinct ⟨before, client, sql, parameters, between, after, rfl, slip⟩
    cases slip with
    | @intro earlier e s later tables held old misfit made checked kept calm committed same =>
      let staging := before ++ .executeWith client sql parameters :: between
      have here := distinct staging (.commit client :: after) (by simp [staging])
      have there := distinct (staging ++ [.commit client]) after (by simp [staging])
      rw [run_concat, serve_commit kept ((Faults.strike?_eq_none_iff _ _).2 calm) committed] at there
      have once := (wellFormed_reachable limit staging).once
      have apart := (Catalog.keysDistinct_commit once here committed).1 there
      exact (List.pairwise_append.1 apart).2.2 e old s (.head _) same
  · intro none before
    induction before using List.reverseRec with
    | nil => exact fun _ _ entry held => nomatch held
    | append_singleton before r ih =>
      intro after split
      have here := ih (r :: after) (by simpa using split)
      have well := wellFormed_reachable limit before
      have step := step_serve ((empty limit).run before).2 r
      rw [run_concat]
      generalize (((empty limit).run before).2.serve r).2 = q at step
      cases step with
      | idle tables rows => exact tables ▸ here
      | executed held calm parsed applied =>
        exact Catalog.keysDistinct_apply well (Sql.names_of_parse parsed) here applied
      | staged held calm made checked => exact here
      | @committed client staged tables held calm committed =>
        refine (Catalog.keysDistinct_commit well.once here committed).2 ?_
        rw [List.pairwise_iff_forall_sublist]
        intro e s pair same
        obtain ⟨front, back, rfl, old, new⟩ := List.cons_sublist_iff.1 pair
        obtain ⟨middle, later, rfl⟩ := List.mem_iff_append.1 (List.singleton_sublist.1 new)
        rw [← List.append_assoc] at held committed
        obtain ⟨start, sql, parameters, between, rfl, there, made, checked⟩ :=
          staging_of_staged held
        have among : e ∈ front ++ middle := List.mem_append_left middle old
        exact none ⟨start, client, sql, parameters, between, after, by simp [split],
          .intro there among (misfit_of_sameKey among checked same) made checked held
            ((Faults.strike?_eq_none_iff _ _).1 calm) committed same⟩

/-- The shortest slip: a column goes between the staging of two rows and comes back before their
commit, and the table holds the key 1 twice. -/
theorem equal_keys_committed :
    ¬((empty 2).run [.connect "a", .connect "b",
      .execute "a" "CREATE TABLE t (k INTEGER PRIMARY KEY, x INTEGER)",
      .executeWith "a" "INSERT INTO t (k, x) VALUES (?, ?)" [.integer 1, .integer 5],
      .execute "b" "ALTER TABLE t DROP COLUMN x",
      .executeWith "a" "INSERT INTO t (k) VALUES (?)" [.integer 1],
      .execute "b" "ALTER TABLE t ADD COLUMN x INTEGER",
      .commit "a"]).2.database.tables.KeysDistinct := by
  intro distinct
  have held : ("t", (⟨[⟨"k", .integer, false, true⟩, .plain "x" .integer],
      [[some (.integer 1), some (.integer 5)], [some (.integer 1), none]]⟩ : Table)) ∈
      ((empty 2).run [.connect "a", .connect "b",
        .execute "a" "CREATE TABLE t (k INTEGER PRIMARY KEY, x INTEGER)",
        .executeWith "a" "INSERT INTO t (k, x) VALUES (?, ?)" [.integer 1, .integer 5],
        .execute "b" "ALTER TABLE t DROP COLUMN x",
        .executeWith "a" "INSERT INTO t (k) VALUES (?)" [.integer 1],
        .execute "b" "ALTER TABLE t ADD COLUMN x INTEGER",
        .commit "a"]).2.database.tables.entries := by
    decide +kernel
  have apart := (List.pairwise_cons.1 (distinct _ held)).1 _ (.head _)
  exact absurd (apart (.integer 1) (.integer 1) rfl rfl) (by decide)

end Pool
end RecordSink
