import RecordSink.Proofs.Database.Servings

/-! Requests that fail. The faults of its verb are met before anything else is done for a request,
and one that strikes is used up and has no other effect. A request that fails without a fault
leaves everything as it was, whatever it failed of, unless it is a commit: that one forgets the rows
that its connection has staged. -/
namespace RecordSink

namespace Entries

/-- An entry that is put where it already is. -/
theorem put_of_lookup {α : Type} {entries : Entries α} {name : String} {a : α}
    (held : entries.lookup name = some a) : put name a entries = entries := by
  induction entries with
  | nil => cases held
  | cons entry rest ih =>
    obtain ⟨n, b⟩ := entry
    by_cases same : n = name
    · subst same
      rw [List.lookup_cons, beq_self_eq_true] at held
      cases held
      exact if_pos rfl
    · rw [List.lookup_cons, beq_eq_false_iff_ne.2 (Ne.symm same)] at held
      rw [put, if_neg same, ih held]

end Entries

/-- The verb whose faults a request meets. -/
def Request.verb? : Request → Option String
  | .connect _ => some "CONNECT"
  | .execute _ sql => some (Sql.verb sql)
  | .executeWith _ sql _ => some (Sql.verb sql)
  | .commit _ => some "COMMIT"
  | .tableExists .. => some "METADATA"
  | .columns .. => some "METADATA"
  | .close _ => none
  | .rollback _ => none
  | .inject .. => none

namespace Dialogue

/-- Talk that meets the faults of a verb first: one that strikes is all that happens. -/
def Guarded (verb : String) (d : Dialogue α) : Prop :=
  ∀ ⦃link rest⦄, link.database.faults.strike? verb = some rest →
    d link = .error (.of (.injected verb)) { link with database := link.database.withFaults rest }

/-- Talk that leaves everything as it was if it fails without a fault. -/
def Harmless (verb : String) (d : Dialogue α) : Prop :=
  ∀ ⦃link e after⦄, link.database.faults.strike? verb = none → d link = .error e after →
    after = link

theorem guarded_execute (sql : String) : Guarded (Sql.verb sql) (execute sql) := by
  intro link rest struck
  rw [execute_eq, struck]

theorem guarded_executeWith (sql : String) (parameters : List Value) :
    Guarded (Sql.verb sql) (executeWith sql parameters) := by
  intro link rest struck
  rw [executeWith_eq, struck]

theorem guarded_commit : Guarded "COMMIT" commit := by
  intro link rest struck
  rw [commit_eq, struck]

theorem guarded_tableExists (name : String) : Guarded "METADATA" (tableExists name) := by
  intro link rest struck
  rw [tableExists_eq, struck]

theorem guarded_columns (name : String) : Guarded "METADATA" (columns name) := by
  intro link rest struck
  rw [columns_eq, struck]

theorem harmless_execute (sql : String) : Harmless (Sql.verb sql) (execute sql) := by
  intro link e after calm failed
  rw [execute_eq, calm] at failed
  dsimp only at failed
  cases done : (Sql.parse sql).mapError .statement >>= link.database.tables.apply with
  | error cause =>
    rw [done] at failed
    cases failed
    rfl
  | ok answer =>
    rw [done] at failed
    cases failed

theorem harmless_executeWith (sql : String) (parameters : List Value) :
    Harmless (Sql.verb sql) (executeWith sql parameters) := by
  intro link e after calm failed
  rw [executeWith_eq, calm] at failed
  dsimp only at failed
  cases made : rowToStage sql parameters with
  | error cause =>
    rw [made] at failed
    cases failed
    rfl
  | ok row =>
    rw [made] at failed
    dsimp only at failed
    cases checked : link.database.tables.checkStaging link.staged row with
    | error m =>
      rw [checked] at failed
      cases failed
      rfl
    | ok done =>
      rw [checked] at failed
      cases failed

theorem harmless_tableExists (name : String) : Harmless "METADATA" (tableExists name) := by
  intro link e after calm failed
  rw [tableExists_eq, calm] at failed
  cases failed

theorem harmless_columns (name : String) : Harmless "METADATA" (columns name) := by
  intro link e after calm failed
  rw [columns_eq, calm] at failed
  cases failed

end Dialogue

namespace Pool

variable {p : Pool} {client verb : String} {r : Request} {f : Failure} {rest : Faults}

/-- What is left of a pool of which a fault has struck. -/
def struck (p : Pool) (rest : Faults) : Pool :=
  ⟨p.database.withFaults rest, p.connections⟩

theorem talk_struck {d : Dialogue α} {answer : α → Answer} (guarded : Dialogue.Guarded verb d)
    (known : (p.talk client d answer).1 ≠ .unknownClient)
    (strikes : p.database.faults.strike? verb = some rest) :
    p.talk client d answer = (.failed (.of (.injected verb)), p.struck rest) := by
  unfold talk at known ⊢
  cases held : p.staged? client with
  | none =>
    rw [held] at known
    exact absurd rfl known
  | some rows =>
    have said := @guarded ⟨p.database, rows⟩ rest strikes
    simp only [said, struck, Entries.put_of_lookup held]

theorem talk_refused {d : Dialogue α} {answer : α → Answer} (harmless : Dialogue.Harmless verb d)
    (calm : p.database.faults.strike? verb = none) (answers : ∀ x, answer x ≠ .failed f)
    (failed : (p.talk client d answer).1 = .failed f) : (p.talk client d answer).2 = p := by
  unfold talk at failed ⊢
  cases held : p.staged? client with
  | none => rfl
  | some rows =>
    rw [held] at failed
    dsimp only at failed ⊢
    cases said : d ⟨p.database, rows⟩ with
    | ok x link =>
      rw [said] at failed
      exact absurd failed (answers x)
    | error e link =>
      obtain rfl := harmless calm said
      dsimp only
      rw [Entries.put_of_lookup held]

theorem connect_struck (strikes : p.database.faults.strike? "CONNECT" = some rest) :
    p.connect client = (.failed (.of (.injected "CONNECT")), p.struck rest) := by
  simp only [connect, Action.connect_eq, strikes, struck]

theorem connect_refused (calm : p.database.faults.strike? "CONNECT" = none)
    (failed : (p.connect client).1 = .failed f) : (p.connect client).2 = p := by
  unfold connect at failed ⊢
  rw [Action.connect_eq, calm] at failed ⊢
  by_cases free : p.database.openCount < p.database.limit
  · simp only [free, if_true] at failed
    cases failed
  · simp only [free, if_false]

/-- A fault that strikes is the answer, and it is used up. -/
theorem serve_struck (meets : r.verb? = some verb) (known : (p.serve r).1 ≠ .unknownClient)
    (strikes : p.database.faults.strike? verb = some rest) :
    p.serve r = (.failed (.of (.injected verb)), p.struck rest) := by
  cases r with
  | connect client =>
    cases meets
    exact connect_struck strikes
  | execute client sql =>
    obtain rfl := Option.some.inj meets
    exact talk_struck (Dialogue.guarded_execute sql) known strikes
  | executeWith client sql parameters =>
    obtain rfl := Option.some.inj meets
    exact talk_struck (Dialogue.guarded_executeWith sql parameters) known strikes
  | commit client =>
    cases meets
    exact talk_struck Dialogue.guarded_commit known strikes
  | tableExists client table =>
    cases meets
    exact talk_struck (Dialogue.guarded_tableExists table) known strikes
  | columns client table =>
    cases meets
    exact talk_struck (Dialogue.guarded_columns table) known strikes
  | close client => cases meets
  | rollback client => cases meets
  | inject verb n => cases meets

/-- Where no fault strikes, whatever fails but a commit leaves everything as it was. -/
theorem serve_refused (meets : r.verb? = some verb) (lasting : ∀ client, r ≠ .commit client)
    (calm : p.database.faults.strike? verb = none) (failed : (p.serve r).1 = .failed f) :
    (p.serve r).2 = p := by
  cases r with
  | connect client =>
    cases meets
    exact connect_refused calm failed
  | execute client sql =>
    obtain rfl := Option.some.inj meets
    exact talk_refused (Dialogue.harmless_execute sql) calm nofun failed
  | executeWith client sql parameters =>
    obtain rfl := Option.some.inj meets
    exact talk_refused (Dialogue.harmless_executeWith sql parameters) calm nofun failed
  | commit client => exact absurd rfl (lasting client)
  | tableExists client table =>
    cases meets
    exact talk_refused (Dialogue.harmless_tableExists table) calm nofun failed
  | columns client table =>
    cases meets
    exact talk_refused (Dialogue.harmless_columns table) calm nofun failed
  | close client => cases meets
  | rollback client => cases meets
  | inject verb n => cases meets

/-- What meets no faults does not fail. -/
theorem meets_of_failed (failed : (p.serve r).1 = .failed f) : ∃ verb, r.verb? = some verb := by
  cases r with
  | close client => cases failed
  | inject verb n => cases failed
  | rollback client =>
    change (p.talk client Dialogue.rollback fun _ => .done).1 = _ at failed
    rw [talk_eq] at failed
    cases held : p.staged? client <;> rw [held] at failed <;> cases failed
  | _ => exact ⟨_, rfl⟩

/-- A request that fails, if it is not a commit, either met a fault, which is used up, or changed
nothing at all. -/
theorem serve_failed (lasting : ∀ client, r ≠ .commit client)
    (failed : (p.serve r).1 = .failed f) :
    (∃ verb rest, r.verb? = some verb ∧ p.database.faults.strike? verb = some rest ∧
      f = .of (.injected verb) ∧ (p.serve r).2 = p.struck rest) ∨ (p.serve r).2 = p := by
  obtain ⟨verb, meets⟩ := meets_of_failed failed
  cases strikes : p.database.faults.strike? verb with
  | some rest =>
    have known : (p.serve r).1 ≠ .unknownClient := by
      rw [failed]
      nofun
    have served := serve_struck meets known strikes
    rw [served] at failed
    cases failed
    exact .inl ⟨verb, rest, meets, strikes, rfl, congrArg Prod.snd served⟩
  | none => exact .inr (serve_refused meets lasting strikes failed)

/-- Requests that all fail, of which none is a commit, leave what was there before them, but for
faults that have struck. -/
theorem run_of_failed {requests : List Request}
    (failed : ∀ s ∈ p.servings requests, ∃ f, s.answer = .failed f)
    (lasting : ∀ client, Request.commit client ∉ requests) :
    ∃ rest, (p.run requests).2 = p.struck rest ∧
      ∀ verb, rest.pending verb ≤ p.database.faults.pending verb := by
  induction requests generalizing p with
  | nil => exact ⟨p.database.faults, rfl, fun verb => Nat.le_refl _⟩
  | cons r later ih =>
    obtain ⟨f, first⟩ := failed _ (.head _)
    -- The first request leaves everything but faults, so the rest fail on what it met.
    obtain ⟨faults, after, fewer⟩ : ∃ faults, (p.serve r).2 = p.struck faults ∧
        ∀ verb, faults.pending verb ≤ p.database.faults.pending verb := by
      rcases serve_failed (fun client same => lasting client (same ▸ .head _)) first with
        ⟨verb, faults, -, strikes, -, left⟩ | left
      · refine ⟨faults, left, fun other => ?_⟩
        rw [← Faults.pending_of_strike? strikes other]
        exact Nat.le_add_right _ _
      · exact ⟨p.database.faults, left, fun verb => Nat.le_refl _⟩
    obtain ⟨rest, ends, fewest⟩ := ih (fun s among => failed s (.tail _ among))
      fun client among => lasting client (.tail _ among)
    rw [after] at ends fewest
    exact ⟨rest, by rw [run_cons, after, ends]; rfl,
      fun verb => Nat.le_trans (fewest verb) (fewer verb)⟩

/-- A statement with parameters waits for its commit: no table changes with it. -/
theorem tables_executeWith (p : Pool) (client sql : String) (parameters : List Value) :
    (p.serve (.executeWith client sql parameters)).2.database.tables = p.database.tables := by
  have step := step_serve p (.executeWith client sql parameters)
  generalize (p.serve (.executeWith client sql parameters)).2 = q at step ⊢
  cases step with
  | idle tables rows => exact tables
  | staged held calm made checked => rfl

/-- **A request that fails changes nothing.** The tables, the staged rows of all connections and the
number of open connections are what they were before a connection that was refused, a statement, or
a question about a table, whatever the statement's text and its parameters; at most one pending
fault, of the verb of the request, has been used up, and then it is what the request failed of. A
statement with parameters changes no table even if it succeeds. -/
theorem failure_leaves_no_trace (p : Pool) (r : Request) (f : Failure)
    (lasting : ∀ client, r ≠ .commit client) (failed : (p.serve r).1 = .failed f) :
    ((p.serve r).2 = p ∨ ∃ verb rest, r.verb? = some verb ∧ f = .of (.injected verb) ∧
      (∀ other, rest.pending other + (if other = verb then 1 else 0) =
        p.database.faults.pending other) ∧
      (p.serve r).2 = ⟨{ p.database with faults := rest }, p.connections⟩) ∧
    ∀ client sql parameters,
      (p.serve (.executeWith client sql parameters)).2.database.tables = p.database.tables := by
  refine ⟨?_, tables_executeWith p⟩
  rcases serve_failed lasting failed with ⟨verb, rest, meets, strikes, same, left⟩ | left
  · exact .inr ⟨verb, rest, meets, same, Faults.pending_of_strike? strikes, left⟩
  · exact .inl left

/-- A column that rows would have to fill is not added, while a row waits for its commit. -/
theorem required_column_leaves_no_trace :
    let p := ((empty 1).run [.connect "a", .execute "a" "CREATE TABLE t (k INTEGER PRIMARY KEY)",
      .executeWith "a" "INSERT INTO t (k) VALUES (?)" [.integer 1], .commit "a",
      .executeWith "a" "INSERT INTO t (k) VALUES (?)" [.integer 2]]).2
    let r := Request.execute "a" "ALTER TABLE t ADD COLUMN x VARCHAR NOT NULL"
    (p.serve r).1 = .failed (.of (.mismatch (.requiredAdded "x"))) ∧ (p.serve r).2 = p := by
  intro p r
  have failed : (p.serve r).1 = .failed (.of (.mismatch (.requiredAdded "x"))) := by
    decide +kernel
  have lasting : ∀ client, r ≠ .commit client := nofun
  rcases (failure_leaves_no_trace p r _ lasting failed).1 with left | ⟨verb, rest, -, same, -⟩
  · exact ⟨failed, left⟩
  · cases same

end Pool
end RecordSink
