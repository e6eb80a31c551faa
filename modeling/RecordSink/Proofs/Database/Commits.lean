import RecordSink.Proofs.Database.Servings

/-! Commits are all or nothing. An accepted commit adds every staged row to its table, as the table
is at that moment; a refused one changes no table. After a fault the rows stay staged and after a
mismatch none does, and rows that are staged are only ever kept all together or forgotten all
together, so that no later commit can add some of them and lose the others. -/
namespace RecordSink

namespace Catalog

variable {c d : Catalog} {name : String} {staged : List StagedRow} {made : List (String × Row)}

/-- What becomes of tables when all of these staged rows are added: the rows for a table stand
behind those that it had, in their order, each with its values in the columns of their names and
with nothing in the other columns. -/
structure Gains (c : Catalog) (staged : List StagedRow) (d : Catalog) : Prop where
  known : ∀ s ∈ staged, ∃ t, c.get? s.table = some t
  absent : ∀ name, c.get? name = none → d.get? name = none
  grown : ∀ name t, c.get? name = some t → ∃ rows, d.get? name = some (t.grow rows) ∧
    List.Forall₂ (fun s row => t.Takes s.values ∧ row = t.columns.map fun col => s.values.lookup col.name)
      (staged.filter fun s => s.table = name) rows

/-- The rows for a table are made by the staged rows for it, one for one. -/
theorem Makes.forall₂_rowsFor (makes : c.Makes staged made) (name : String) :
    List.Forall₂ (fun s row => s.table = name ∧ c.rowFor s = .ok row)
      (staged.filter fun s => s.table = name) (rowsFor name made) := by
  induction makes with
  | nil => exact .nil
  | @cons s entry staged made head tail ih =>
    rw [rowsFor_cons, List.filter_cons, head.1]
    by_cases same : s.table = name
    · simpa [same] using ⟨head.2, ih⟩
    · simpa [same] using ih

/-- A commit is accepted exactly if every staged row can be made. -/
theorem commit_ok_iff :
    (∃ d, c.commit staged = .ok d) ↔ ∀ s ∈ staged, ∃ row, c.rowFor s = .ok row := by
  constructor
  · rintro ⟨d, committed⟩ s held
    obtain ⟨made, makes, -⟩ := get?_commit committed
    exact makes.made_of_mem held
  · intro each
    unfold commit
    cases rows : staged.mapM fun s => do return (s.table, ← c.rowFor s) with
    | ok made => exact ⟨_, rfl⟩
    | error m =>
      obtain ⟨s, held, failed⟩ := mapM_error rows
      obtain ⟨row, fits⟩ := each s held
      rw [fits] at failed
      cases failed

/-- A commit is accepted exactly if every staged row fits its table with a key that is not in it. -/
theorem commit_ok_iff_fits :
    (∃ d, c.commit staged = .ok d) ↔ ∀ s ∈ staged, ∃ t row, c.get? s.table = some t ∧
      t.rowOf s.values = .ok row ∧ ∀ key, t.keyOf row = some key → t.hasKey key = false := by
  rw [commit_ok_iff]
  refine forall₂_congr fun s _ => ?_
  rw [exists_comm]
  exact exists_congr fun row => rowFor_ok_iff

theorem gains_of_commit (committed : c.commit staged = .ok d) : c.Gains staged d := by
  obtain ⟨made, makes, after⟩ := get?_commit committed
  refine ⟨fun s held => ?_, fun name absent => ?_, fun name t there => ⟨rowsFor name made, ?_, ?_⟩⟩
  · obtain ⟨row, fits⟩ := makes.made_of_mem held
    obtain ⟨t, there, -⟩ := rowFor_ok_iff.1 fits
    exact ⟨t, there⟩
  · rw [after, absent]
    rfl
  · rw [after, there]
    rfl
  · refine (makes.forall₂_rowsFor name).imp ?_
    rintro s row ⟨rfl, fits⟩
    obtain ⟨u, held, made, -⟩ := rowFor_ok_iff.1 fits
    rw [there] at held
    cases held
    exact Table.rowOf_ok_iff.1 made

end Catalog

namespace Pool

variable {p q : Pool} {r : Request} {client : String} {staged : List StagedRow}

/-- The client has nothing staged. -/
def NoneStaged (p : Pool) (client : String) : Prop :=
  (p.staged? client).getD [] = []

/-- A step keeps the staged rows of a client and may add to them, or leaves it none. -/
private theorem staged_of_step (step : Step p r q) (held : p.staged? client = some staged) :
    q.NoneStaged client ∨ ∃ more, q.staged? client = some (staged ++ more) := by
  have same : q.staged? client = some staged → ∃ more, q.staged? client = some (staged ++ more) :=
    fun there => ⟨[], by rw [there, List.append_nil]⟩
  cases step with
  | idle tables rows =>
    cases there : q.staged? client with
    | none => exact .inl (by rw [NoneStaged, there]; rfl)
    | some kept =>
      rcases rows client kept there with none_left | before
      · exact .inl (by rw [NoneStaged, there, none_left]; rfl)
      · rw [held] at before
        cases before
        exact .inr (there ▸ same there)
  | @executed c rows sql statement n tables there calm parsed applied =>
    refine .inr (same ?_)
    rw [staged?_put]
    split
    · rename_i own
      rw [← there, ← own, held]
    · exact held
  | @staged c rows sql parameters s there calm made checked =>
    rw [staged?_put]
    split
    · rename_i own
      rw [← own, held] at there
      cases there
      exact .inr ⟨[s], rfl⟩
    · exact .inr ⟨[], by rw [held, List.append_nil]⟩
  | @committed c rows tables there calm committed =>
    unfold NoneStaged
    rw [staged?_put]
    split
    · exact .inl rfl
    · exact .inr ⟨[], by rw [held, List.append_nil]⟩

/-- In the course of these requests the client has nothing staged at some moment. -/
def Empties (p : Pool) (client : String) (requests : List Request) : Prop :=
  ∃ earlier later, requests = earlier ++ later ∧ (p.run earlier).2.NoneStaged client

/-- Along a run staged rows stay in front of what is staged after them, until there are none. -/
theorem staged_of_run (requests : List Request) (held : p.staged? client = some staged) :
    p.Empties client requests ∨ ∃ more, (p.run requests).2.staged? client = some (staged ++ more) := by
  induction requests generalizing p staged with
  | nil => exact .inr ⟨[], by rw [List.append_nil]; exact held⟩
  | cons r rest ih =>
    rcases staged_of_step (step_serve p r) held with emptied | ⟨more, kept⟩
    · exact .inl ⟨[r], rest, rfl, emptied⟩
    · rcases ih kept with ⟨earlier, later, rfl, emptied⟩ | ⟨others, last⟩
      · exact .inl ⟨r :: earlier, later, rfl, emptied⟩
      · exact .inr ⟨more ++ others, by rw [run_cons, last, List.append_assoc]⟩

theorem serve_commit_struck {rest : Faults} (held : p.staged? client = some staged)
    (struck : p.database.faults.strike? "COMMIT" = some rest) :
    p.serve (.commit client) = (.failed (.of (.injected "COMMIT")),
      ⟨p.database.withFaults rest, p.connections.put client staged⟩) := by
  change p.talk client Dialogue.commit (fun _ => .done) = _
  simp only [talk, held, Dialogue.commit_eq, struck]

theorem serve_commit_mismatch {m : Mismatch} (held : p.staged? client = some staged)
    (calm : p.database.faults.strike? "COMMIT" = none)
    (refused : p.database.tables.commit staged = .error m) :
    p.serve (.commit client) =
      (.failed (.of (.mismatch m)), ⟨p.database, p.connections.put client []⟩) := by
  change p.talk client Dialogue.commit (fun _ => .done) = _
  simp only [talk, held, Dialogue.commit_eq, calm, refused]

theorem gains_of_done (held : p.staged? client = some staged)
    (done : (p.serve (.commit client)).1 = .done) :
    p.database.tables.Gains staged (p.serve (.commit client)).2.database.tables := by
  cases strikes : p.database.faults.strike? "COMMIT" with
  | some rest =>
    rw [serve_commit_struck held strikes] at done
    cases done
  | none =>
    cases ends : p.database.tables.commit staged with
    | error m =>
      rw [serve_commit_mismatch held strikes ends] at done
      cases done
    | ok tables =>
      rw [serve_commit held strikes ends]
      exact Catalog.gains_of_commit ends

/-- Along a run the rows are forgotten or committed at some moment, or a commit now would add all of
them if it were accepted. -/
theorem whole_of_run (requests : List Request) (held : p.staged? client = some staged) :
    p.Empties client requests ∨ ∃ more,
      (p.run requests).2.staged? client = some (staged ++ more) ∧
      (((p.run requests).2.serve (.commit client)).1 = .done →
        (p.run requests).2.database.tables.Gains (staged ++ more)
          ((p.run requests).2.serve (.commit client)).2.database.tables) := by
  rcases staged_of_run requests held with emptied | ⟨more, last⟩
  · exact .inl emptied
  · exact .inr ⟨more, last, gains_of_done last⟩

/-- **A commit adds all staged rows or none.** It is accepted exactly if no fault strikes and every
staged row fits its table as it is now with a key that is not in it. Then each table has gained its
rows, and nothing else has changed. Otherwise no table has changed; the rows stay staged if it was a
fault and are forgotten if it was a mismatch. Whatever is requested afterwards, unless there was a
moment at which the client had nothing staged, its next commit adds all of these rows if it is
accepted. -/
theorem commit_all_or_nothing (p : Pool) (client : String) (staged : List StagedRow)
    (held : p.staged? client = some staged) :
    let answer := (p.serve (.commit client)).1
    let q := (p.serve (.commit client)).2
    (answer = .done ↔ p.database.faults.pending "COMMIT" = 0 ∧
      ∀ s ∈ staged, ∃ t row, p.database.tables.get? s.table = some t ∧
        t.rowOf s.values = .ok row ∧ ∀ key, t.keyOf row = some key → t.hasKey key = false) ∧
    (answer = .done → p.database.tables.Gains staged q.database.tables ∧
      q.database = p.database.withTables q.database.tables ∧ q.staged? client = some []) ∧
    (answer ≠ .done → q.database.tables = p.database.tables ∧
      ((answer = .failed (.of (.injected "COMMIT")) ∧ q.staged? client = some staged) ∨
        ((∃ m, answer = .failed (.of (.mismatch m))) ∧ q.staged? client = some [])) ∧
      ∀ requests, q.Empties client requests ∨ ∃ more,
        (q.run requests).2.staged? client = some (staged ++ more) ∧
        (((q.run requests).2.serve (.commit client)).1 = .done →
          (q.run requests).2.database.tables.Gains (staged ++ more)
            ((q.run requests).2.serve (.commit client)).2.database.tables)) ∧
    ∀ other, other ≠ client → q.staged? other = p.staged? other := by
  have others : ∀ other, other ≠ client →
      (p.serve (.commit client)).2.staged? other = p.staged? other :=
    fun other apart => staged?_of_other fun same => apart (Option.some.inj same).symm
  have calm_iff := Faults.strike?_eq_none_iff p.database.faults "COMMIT"
  cases strikes : p.database.faults.strike? "COMMIT" with
  | some rest =>
    rw [serve_commit_struck held strikes] at others ⊢
    refine ⟨⟨nofun, fun accepted => ?_⟩, nofun,
      fun _ => ⟨rfl, .inl ⟨rfl, staged?_put_self _ _⟩, ?_⟩, others⟩
    · rw [calm_iff.2 accepted.1] at strikes
      cases strikes
    · exact fun requests => whole_of_run requests (staged?_put_self _ _)
  | none =>
    cases ends : p.database.tables.commit staged with
    | error m =>
      rw [serve_commit_mismatch held strikes ends] at others ⊢
      have forgotten := @staged?_put_self p client p.database []
      refine ⟨⟨nofun, fun accepted => ?_⟩, nofun,
        fun _ => ⟨rfl, .inr ⟨⟨m, rfl⟩, forgotten⟩, ?_⟩, others⟩
      · obtain ⟨tables, made⟩ := Catalog.commit_ok_iff_fits.2 accepted.2
        rw [ends] at made
        cases made
      · exact fun requests => .inl ⟨[], requests, rfl, congrArg (Option.getD · []) forgotten⟩
    | ok tables =>
      rw [serve_commit held strikes ends] at others ⊢
      refine ⟨⟨fun _ => ⟨calm_iff.1 strikes, Catalog.commit_ok_iff_fits.1 ⟨tables, ends⟩⟩, fun _ => rfl⟩, fun _ => ?_,
        fun refused => absurd rfl refused, others⟩
      exact ⟨Catalog.gains_of_commit ends, rfl, staged?_put_self _ _⟩

/-- Rows for two tables are all added if a column comes before their commit, and none of them if
one goes that a row has a value for. -/
theorem rows_meet_changed_columns :
    let staged : List StagedRow :=
      [⟨"s", [("k", .integer 1)]⟩, ⟨"t", [("x", .integer 5), ("k", .integer 1)]⟩]
    let p (change : String) : Pool := ((empty 2).run [.connect "a", .connect "b",
      .execute "a" "CREATE TABLE s (k INTEGER PRIMARY KEY)",
      .execute "a" "CREATE TABLE t (k INTEGER PRIMARY KEY, x INTEGER)",
      .executeWith "a" "INSERT INTO s (k) VALUES (?)" [.integer 1],
      .executeWith "a" "INSERT INTO t (x, k) VALUES (?, ?)" [.integer 5, .integer 1],
      .execute "b" change]).2
    let more := p "ALTER TABLE t ADD COLUMN y VARCHAR"
    let fewer := p "ALTER TABLE t DROP COLUMN x"
    more.database.tables.Gains staged (more.serve (.commit "a")).2.database.tables ∧
      (∃ m, (fewer.serve (.commit "a")).1 = .failed (.of (.mismatch m))) ∧
      (fewer.serve (.commit "a")).2.database.tables = fewer.database.tables ∧
      (fewer.serve (.commit "a")).2.staged? "a" = some [] := by
  intro staged p more fewer
  let columns (rest : List Column) : Catalog :=
    ⟨[("s", ⟨[⟨"k", .integer, false, true⟩], []⟩), ("t", ⟨⟨"k", .integer, false, true⟩ :: rest, []⟩)]⟩
  have reached_more : more = ⟨⟨columns [.plain "x" .integer, .plain "y" .varchar], .none, 2, 2⟩,
      [("a", staged), ("b", [])]⟩ := by
    decide +kernel
  have reached_fewer : fewer = ⟨⟨columns [], .none, 2, 2⟩, [("a", staged), ("b", [])]⟩ := by
    decide +kernel
  clear_value more fewer
  have held_more : more.staged? "a" = some staged := by rw [reached_more]; decide
  have held_fewer : fewer.staged? "a" = some staged := by rw [reached_fewer]; decide
  have added : (more.serve (.commit "a")).1 = .done := by rw [reached_more]; decide +kernel
  have missing : (fewer.serve (.commit "a")).1 = .failed (.of (.mismatch (.noColumn "x"))) := by
    rw [reached_fewer]
    decide +kernel
  obtain ⟨-, all, -⟩ := commit_all_or_nothing more "a" staged held_more
  obtain ⟨-, -, nothing, -⟩ := commit_all_or_nothing fewer "a" staged held_fewer
  obtain ⟨same, cases, -⟩ := nothing (by rw [missing]; exact nofun)
  refine ⟨(all added).1, ⟨_, missing⟩, same, ?_⟩
  rcases cases with ⟨struck, -⟩ | ⟨-, forgotten⟩
  · rw [missing] at struck
    cases struck
  · exact forgotten

end Pool
end RecordSink
