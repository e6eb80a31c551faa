import RecordSink.Proofs.Retention.Trims
import RecordSink.Proofs.Store.Connections

/-! What a run of retention does to a database that clients and stores have worked on. Every table
that is there has a name that the statements of a run can be written with, so on a calm database no
run fails: it takes rows from the front of its table, as many as it is told and as there are, and
nothing from anywhere else. A run that fails takes none. -/
namespace RecordSink

/-- What a run leaves of the tables, and how it answers. -/
structure Catalog.Trims (before : Catalog) (table : String) (keep : UInt64) (did : Trimming)
    (after : Catalog) : Prop where
  /-- Only a table that is not there is skipped. -/
  skipped : did = .skipped ↔ before.get? table = none
  absent : before.get? table = none → after = before
  /-- All rows go and the columns stay. -/
  truncated : ∀ t, before.get? table = some t → keep = 0 →
    did = .truncated ∧ after.get? table = some ⟨t.columns, []⟩
  /-- The first rows go, at most as many as there are. -/
  deleted : ∀ t, before.get? table = some t → keep ≠ 0 →
    did = .deleted (min keep.toNat t.rows.length) ∧
      after.get? table = some ⟨t.columns, t.rows.drop (min keep.toNat t.rows.length)⟩
  others : ∀ other, other ≠ table → after.get? other = before.get? other

namespace Catalog

variable {c : Catalog} {table : String} {keep : UInt64} {t : Table}

theorem trims_absent (absent : c.get? table = none) : c.Trims table keep .skipped c where
  skipped := iff_of_true rfl absent
  absent := fun _ => rfl
  truncated := by
    intro t held
    rw [absent] at held
    cases held
  deleted := by
    intro t held
    rw [absent] at held
    cases held
  others := fun _ _ => rfl

theorem trims_held (held : c.get? table = some t) :
    c.Trims table keep (if keep = 0 then .truncated else .deleted (t.trimmed keep).1)
      (c.set table (t.trimmed keep).2) where
  skipped := by
    rw [held]
    split <;> simp
  absent := by
    intro absent
    rw [held] at absent
    cases absent
  truncated := by
    intro u there all
    cases held.symm.trans there
    refine ⟨if_pos all, ?_⟩
    rw [get?_set, if_pos rfl, Table.trimmed, if_pos all, Table.deleteRows]
    dsimp only
    rw [List.drop_length]
  deleted := by
    intro u there some_rows
    cases held.symm.trans there
    rw [if_neg some_rows, get?_set, if_pos rfl, Table.trimmed, if_neg some_rows]
    exact ⟨rfl, rfl⟩
  others := by
    intro other apart
    rw [get?_set, if_neg apart]

end Catalog

namespace Pool

variable {σ : Type}

/-- Whatever a client requests or a store does, the tables stay well formed. -/
theorem wellFormed_of_move {p : Pool} (m : Mapping) (move : Move σ)
    (well : p.database.tables.WellFormed) : (p.after m move).database.tables.WellFormed := by
  cases move with
  | request r => exact wellFormed_of_step (step_serve p r) well
  | operate op => exact (op.serial_action m).obeys Database.law_wellFormed p.database well

theorem wellFormed_of_play {p : Pool} (m : Mapping) (moves : List (Move σ))
    (well : p.database.tables.WellFormed) : (p.play m moves).database.tables.WellFormed := by
  induction moves generalizing p with
  | nil => exact well
  | cons move rest ih => exact ih (wellFormed_of_move m move well)

/-- **What a run of retention does.** Take a database that any requests, operations and injected
faults have led to. If it is calm, the run answers, and it takes from its table exactly what it was
told to take. If the run fails, no table changes. Either way as many connections are open as before,
and every client has the rows staged that it had. -/
theorem trim_exactly (m : Mapping) (limit : Nat) (moves : List (Move σ)) (p q : Pool)
    (start : p = (empty limit).play m moves) (table : String) (keep : UInt64)
    (done : q = p.after m (.operate (.trim table keep : Operation σ))) :
    (p.database.Calm → ∃ did, Action.trim table keep p.database = .ok did q.database ∧
      p.database.tables.Trims table keep did q.database.tables ∧
      q.database = p.database.withTables q.database.tables) ∧
    (∀ e db, Action.trim table keep p.database = .error e db →
      q.database = db ∧ db = p.database.withFaults db.faults) ∧
    q.database.openCount = p.database.openCount ∧
    ∀ client, q.staged? client = p.staged? client := by
  have well : p.database.tables.WellFormed :=
    start ▸ wellFormed_of_play m moves Catalog.wellFormed_empty
  have ends : q.database = reached (Action.trim table keep p.database) := by
    rw [done]
    rfl
  refine ⟨fun calm => ?_, fun e db failed => ?_, ?_, fun client => ?_⟩
  · have ran := Action.trim_calm calm well table keep
    cases held : p.database.tables.get? table with
    | none =>
      rw [held] at ran
      rw [ends, ran]
      exact ⟨.skipped, rfl, Catalog.trims_absent held, rfl⟩
    | some t =>
      rw [held] at ran
      rw [ends, ran]
      exact ⟨_, rfl, Catalog.trims_held held, rfl⟩
  · rw [ends, failed]
    refine ⟨rfl, ?_⟩
    rcases Action.trim_cases well table keep with
      ⟨e', after, same⟩ | ⟨-, same⟩ | ⟨t, -, same⟩ <;> rw [failed] at same <;> cases same
    rfl
  · rw [ends]
    exact ((Action.serial_trim table keep).returned p.database).1
  · rw [done]
    rfl

/-- Two of three rows go, while another client has a row staged for the same table. -/
theorem trim_beside_staged_row :
    let p := (empty 3).play .standard ([.request (.connect "a"), .request (.connect "b"),
      .request (.execute "a" "CREATE TABLE t (k INTEGER PRIMARY KEY, x VARCHAR)"),
      .request (.executeWith "a" "INSERT INTO t (x, k) VALUES (?, ?)" [.string "one", .integer 1]),
      .request (.executeWith "a" "INSERT INTO t (k) VALUES (?)" [.integer 2]),
      .request (.executeWith "a" "INSERT INTO t (k) VALUES (?)" [.integer 3]),
      .request (.commit "a"),
      .request (.executeWith "b" "INSERT INTO t (k) VALUES (?)" [.integer 4])] : List (Move Unit))
    let q := p.after .standard (.operate (.trim "t" 2 : Operation Unit))
    p.database.Calm ∧ (p.database.tables.get? "t").map Table.rows =
      some [[some (.integer 1), some (.string "one")], [some (.integer 2), none],
        [some (.integer 3), none]] ∧
    Action.trim "t" 2 p.database = .ok (.deleted 2) q.database ∧
    (q.database.tables.get? "t").map Table.rows = some [[some (.integer 3), none]] ∧
    q.staged? "b" = some [⟨"t", [("k", .integer 4)]⟩] := by
  intro p q
  let t : Table := ⟨[⟨"k", .integer, false, true⟩, .plain "x" .varchar],
    [[some (.integer 1), some (.string "one")], [some (.integer 2), none],
      [some (.integer 3), none]]⟩
  have start : p = (empty 3).play .standard _ := rfl
  have made : p =
      ⟨⟨⟨[("t", t)]⟩, .none, 2, 3⟩, [("a", []), ("b", [⟨"t", [("k", .integer 4)]⟩])]⟩ := by
    decide +kernel
  clear_value p
  have calm : p.database.Calm := by
    rw [made]
    exact ⟨by decide, fun _ => rfl⟩
  have held : p.database.tables.get? "t" = some t := by
    rw [made]
    rfl
  have staged : p.staged? "b" = some [⟨"t", [("k", .integer 4)]⟩] := by
    rw [made]
    rfl
  obtain ⟨answers, -, -, kept⟩ := trim_exactly .standard 3 _ p q start "t" 2 rfl
  obtain ⟨did, ran, trims, -⟩ := answers calm
  obtain ⟨rfl, left⟩ := trims.deleted t held (by decide)
  exact ⟨calm, congrArg (Option.map Table.rows) held, ran, congrArg (Option.map Table.rows) left,
    (kept "b").trans staged⟩

end Pool
end RecordSink
