import RecordSink.Proofs.Database.Abandoned
import RecordSink.Proofs.Database.Commits
import RecordSink.Proofs.Database.Keys

/-! What has been accepted can be committed. A row is checked twice: when it is staged, against its
table and the rows that its client has staged before, and at the commit, against its table alone.
As long as the tables stay as they are, rows that have passed the first check, one after the other,
pass the second together, and no two of them have equal keys. -/
namespace RecordSink

namespace Catalog

/-- Rows each of which can be staged now after those before it. -/
inductive Stageable (c : Catalog) : List StagedRow → Prop where
  | none : c.Stageable []
  | row (before : c.Stageable staged) (checked : c.checkStaging staged s = .ok ()) :
    c.Stageable (staged ++ [s])

variable {c d : Catalog} {staged : List StagedRow} {s : StagedRow}

/-- A row that can be staged can be made. -/
theorem rowFor_of_checkStaging (checked : c.checkStaging staged s = .ok ()) :
    ∃ row, c.rowFor s = .ok row := by
  obtain ⟨t, row, held, fits, unseen⟩ := checkStaging_ok_iff.1 checked
  exact ⟨row, rowFor_ok_iff.2 ⟨t, held, fits, fun key keyed => (unseen key keyed).1⟩⟩

/-- A row that can be staged has another key than the rows before it. -/
theorem not_sameKey_of_checkStaging {e : StagedRow} (old : e ∈ staged)
    (checked : c.checkStaging staged s = .ok ()) : ¬c.SameKey e s := by
  rintro ⟨t, row, key, held, fits, keyed, twice⟩
  obtain ⟨u, row', there, fits', unseen⟩ := checkStaging_ok_iff.1 checked
  cases held.symm.trans there
  cases fits.symm.trans fits'
  rw [(unseen key keyed).2 e old] at twice
  cases twice

theorem Stageable.rowFor (stageable : c.Stageable staged) :
    ∀ s ∈ staged, ∃ row, c.rowFor s = .ok row := by
  induction stageable with
  | none => exact nofun
  | row before checked ih =>
    intro s held
    rcases List.mem_append.1 held with old | new
    · exact ih s old
    · obtain rfl := List.mem_singleton.1 new
      exact rowFor_of_checkStaging checked

theorem Stageable.pairwise (stageable : c.Stageable staged) :
    staged.Pairwise fun e s => ¬c.SameKey e s := by
  induction stageable with
  | none => exact .nil
  | row before checked ih =>
    refine List.pairwise_append.2 ⟨ih, List.pairwise_singleton _ _, fun e old s new => ?_⟩
    obtain rfl := List.mem_singleton.1 new
    exact not_sameKey_of_checkStaging old checked

/-- Rows that can be staged can be committed, and that leaves distinct keys distinct. -/
theorem Stageable.commit (stageable : c.Stageable staged) :
    ∃ d, c.commit staged = .ok d ∧ ∀ name t, c.get? name = some t → t.KeysDistinct →
      ∃ u, d.get? name = some u ∧ u.KeysDistinct := by
  obtain ⟨d, committed⟩ := commit_ok_iff.2 stageable.rowFor
  obtain ⟨made, makes, after⟩ := get?_commit committed
  refine ⟨d, committed, fun name t held distinct => ⟨t.grow (rowsFor name made), ?_, ?_⟩⟩
  · rw [after, held]
    rfl
  · exact (makes.keysDistinct_grow held distinct).2
      (stageable.pairwise.imp fun differ _ _ => differ)

end Catalog

/-- The row that a request stages if it is accepted. -/
def Request.row? : Request → Option StagedRow
  | .executeWith _ sql parameters => (Dialogue.rowToStage sql parameters).toOption
  | _ => none

namespace Serving

/-- The row that the client has staged by this request. -/
def stagedRow? (client : String) (s : Serving) : Option StagedRow :=
  if s.Stages client then s.request.row? else none

/-- If this is a request of the client to stage a row, it was accepted and has staged that row, or
it failed and has staged none. -/
def Decided (client : String) (s : Serving) : Prop :=
  ∀ sql parameters, s.request = .executeWith client sql parameters →
    (∃ row, Dialogue.rowToStage sql parameters = .ok row ∧ s.answer = .count 1 ∧
      s.stagedRow? client = some row) ∨
    ((∃ f, s.answer = .failed f) ∧ s.stagedRow? client = none)

/-- The client keeps what it has staged: it neither commits nor forgets it. -/
def Keeps (client : String) (s : Serving) : Prop :=
  ¬s.Forgets client ∧ s.request ≠ .commit client

instance (client : String) (s : Serving) : Decidable (s.Keeps client) :=
  inferInstanceAs (Decidable (_ ∧ _))

variable {client : String} {s : Serving}

theorem decided_of_not_stagesFor (other : s.request.stagesFor client = false) :
    s.stagedRow? client = none ∧ s.Decided client := by
  refine ⟨if_neg fun stages => ne_true_of_eq_false other stages.1, fun sql parameters same => ?_⟩
  rw [same] at other
  exact absurd (beq_self_eq_true client) (ne_true_of_eq_false other)

end Serving

namespace Pool

variable {p : Pool} {client : String} {r : Request} {staged : List StagedRow}

/-- A row is staged after the others, or nothing is. -/
theorem serve_executeWith_cases (held : p.staged? client = some staged) (sql : String)
    (parameters : List Value) :
    (∃ s, Dialogue.rowToStage sql parameters = .ok s ∧
      p.database.tables.checkStaging staged s = .ok () ∧
      p.serve (.executeWith client sql parameters) =
        (.count 1, ⟨p.database, p.connections.put client (staged ++ [s])⟩)) ∨
    ∃ f db, p.serve (.executeWith client sql parameters) =
      (.failed f, ⟨db, p.connections.put client staged⟩) := by
  have served : p.serve (.executeWith client sql parameters) =
      p.talk client (Dialogue.executeWith sql parameters) .count := rfl
  simp only [talk_eq, held, Dialogue.executeWith_eq] at served
  cases calm : p.database.faults.strike? (Sql.verb sql) with
  | some rest =>
    simp only [calm, heard] at served
    exact .inr ⟨_, _, served⟩
  | none =>
    cases made : Dialogue.rowToStage sql parameters with
    | error cause =>
      simp only [calm, made, heard] at served
      exact .inr ⟨_, _, served⟩
    | ok s =>
      cases checked : p.database.tables.checkStaging staged s with
      | error m =>
        simp only [calm, made, checked, heard] at served
        exact .inr ⟨_, _, served⟩
      | ok u => exact .inl ⟨s, rfl, checked, serve_executeWith held calm made checked⟩

private theorem staged?_ofAction (held : p.staged? client = some staged) (a : Action α)
    (answer : α → Answer) :
    (p.talk client (Dialogue.ofAction a) answer).2.staged? client = some staged := by
  rw [talk_eq, held]
  dsimp only
  rw [staged?_put_self]
  unfold Dialogue.ofAction
  cases a p.database <;> rfl

/-- Besides requests to stage rows, only those that a client ends its transaction with touch what it
has staged. -/
private theorem staged?_of_keeps (held : p.staged? client = some staged)
    (other : r.stagesFor client = false) (keeps : (p.serving r).Keeps client) :
    (p.serve r).2.staged? client = some staged := by
  by_cases own : r.client? = some client
  · cases r with
    | connect c =>
      cases own
      change (p.connect client).2.staged? client = _
      unfold Pool.connect
      cases opened : Action.connect p.database with
      | error e db => exact held
      | ok u db =>
        refine absurd (.inr (.inr ⟨rfl, ?_⟩)) keeps.1
        change (p.connect client).1 = _
        unfold Pool.connect
        rw [opened]
    | close c =>
      cases own
      exact absurd (.inr (.inl rfl)) keeps.1
    | commit c =>
      cases own
      exact absurd rfl keeps.2
    | rollback c =>
      cases own
      exact absurd (.inl rfl) keeps.1
    | executeWith c =>
      cases own
      exact absurd other (by simp [Request.stagesFor])
    | execute c sql =>
      cases own
      change (p.talk client (Dialogue.execute sql) .count).2.staged? client = _
      exact staged?_ofAction held _ _
    | tableExists c table =>
      cases own
      change (p.talk client (Dialogue.tableExists table) .truth).2.staged? client = _
      exact staged?_ofAction held _ _
    | columns c table =>
      cases own
      change (p.talk client (Dialogue.columns table) .columns).2.staged? client = _
      exact staged?_ofAction held _ _
    | inject => cases own
  · rw [staged?_of_other own, held]

/-- As long as the client keeps what it has staged, a request adds the row that it stages, if it
stages one. -/
theorem staged_of_serve (held : p.staged? client = some staged)
    (stageable : p.database.tables.Stageable staged) (keeps : (p.serving r).Keeps client) :
    (p.serve r).2.staged? client = some (staged ++ ((p.serving r).stagedRow? client).toList) ∧
      p.database.tables.Stageable (staged ++ ((p.serving r).stagedRow? client).toList) ∧
      (p.serving r).Decided client := by
  cases own : r.stagesFor client with
  | false =>
    obtain ⟨no_row, decided⟩ := Serving.decided_of_not_stagesFor (s := p.serving r) own
    rw [no_row, Option.toList_none, List.append_nil]
    exact ⟨staged?_of_keeps held own keeps, stageable, decided⟩
  | true =>
    cases r with
    | executeWith c sql parameters =>
      obtain rfl : c = client := eq_of_beq own
      generalize served : p.serving (.executeWith c sql parameters) = s
      have request : s.request = .executeWith c sql parameters := served ▸ rfl
      have answer : s.answer = (p.serve (.executeWith c sql parameters)).1 := served ▸ rfl
      rcases serve_executeWith_cases held sql parameters with
        ⟨row, made, checked, after⟩ | ⟨f, db, after⟩ <;> rw [after] at answer ⊢
      · have staged_row : s.stagedRow? c = some row := by
          rw [Serving.stagedRow?, if_pos ⟨by rw [request]; exact own, answer⟩, request]
          exact congrArg Except.toOption made
        rw [staged_row]
        refine ⟨staged?_put_self _ _, stageable.row checked, fun sql' parameters' same => .inl ⟨row, ?_⟩⟩
        cases request.symm.trans same
        exact ⟨made, answer, staged_row⟩
      · have no_row : s.stagedRow? c = none :=
          if_neg fun stages => by cases answer.symm.trans stages.2
        rw [no_row, Option.toList_none, List.append_nil]
        exact ⟨staged?_put_self _ _, stageable, fun _ _ _ => .inr ⟨⟨f, answer⟩, no_row⟩⟩
    | _ => cases own

/-- In the course of requests during which the tables stay as they are, the rows that a client
stages gather in their order. -/
theorem stagedRows_of_run (requests : List Request) (held : p.staged? client = some staged)
    (stageable : p.database.tables.Stageable staged)
    (still : ∀ s ∈ p.servings requests, s.after.tables = s.before.tables)
    (keeps : ∀ s ∈ p.servings requests, s.Keeps client) :
    let rows := staged ++ (p.servings requests).filterMap (Serving.stagedRow? client)
    (p.run requests).2.staged? client = some rows ∧
      (p.run requests).2.database.tables = p.database.tables ∧
      p.database.tables.Stageable rows ∧ ∀ s ∈ p.servings requests, s.Decided client := by
  induction requests generalizing p staged with
  | nil =>
    rw [servings, List.filterMap_nil, List.append_nil]
    exact ⟨held, rfl, stageable, List.forall_mem_nil _⟩
  | cons r rest ih =>
    rw [servings_cons, List.forall_mem_cons] at still keeps
    obtain ⟨staged_next, stageable_next, decided⟩ := staged_of_serve held stageable keeps.1
    have same : (p.serve r).2.database.tables = p.database.tables := still.1
    rw [← same] at stageable_next
    obtain ⟨rows, tables, last, others⟩ := ih staged_next stageable_next still.2 keeps.2
    rw [servings_cons, run_cons, List.forall_mem_cons]
    have gathered :
        (p.serving r :: (p.serve r).2.servings rest).filterMap (Serving.stagedRow? client) =
        ((p.serving r).stagedRow? client).toList ++
          ((p.serve r).2.servings rest).filterMap (Serving.stagedRow? client) := by
      rw [List.filterMap_cons]
      cases (p.serving r).stagedRow? client <;> rfl
    rw [gathered, ← List.append_assoc]
    rw [same] at tables last
    exact ⟨rows, tables, last, decided, others⟩

/-- **What was accepted is committed.** From when the client has nothing staged until it commits,
the tables stay as they are, whatever it and other clients request meanwhile. If no fault strikes
the commit then, it is accepted and adds the rows of all requests of the client that were accepted,
and no others. Keys that were distinct in a table stay distinct. -/
theorem accepted_rows_commit (p : Pool) (client : String) (requests : List Request)
    (empty : p.staged? client = some [])
    (still : ∀ s ∈ p.servings requests, s.after.tables = s.before.tables)
    (keeps : ∀ s ∈ p.servings requests, s.Keeps client)
    (calm : (p.run requests).2.database.faults.pending "COMMIT" = 0) :
    let rows := (p.servings requests).filterMap (Serving.stagedRow? client)
    (∀ s ∈ p.servings requests, s.Decided client) ∧
    ∃ after, (p.run requests).2.serve (.commit client) = (.done, after) ∧
      p.database.tables.Gains rows after.database.tables ∧
      after.database = (p.run requests).2.database.withTables after.database.tables ∧
      after.staged? client = some [] ∧
      ∀ name t, p.database.tables.get? name = some t → t.KeysDistinct →
        ∃ u, after.database.tables.get? name = some u ∧ u.KeysDistinct := by
  obtain ⟨held, tables, stageable, decided⟩ :=
    stagedRows_of_run requests empty .none still keeps
  rw [List.nil_append] at held stageable
  obtain ⟨d, committed, distinct⟩ := stageable.commit
  have served := serve_commit held ((Faults.strike?_eq_none_iff _ _).2 calm) (tables ▸ committed)
  exact ⟨decided, _, served, Catalog.gains_of_commit committed, rfl,
    staged?_put_self _ _, distinct⟩

/-- Rows for two tables, among them requests that fail and others of a client that only looks. -/
theorem failed_requests_add_nothing :
    let p := ((empty 2).run [.connect "a", .connect "b",
      .execute "b" "CREATE TABLE s (k INTEGER PRIMARY KEY)",
      .execute "b" "CREATE TABLE t (k INTEGER PRIMARY KEY, x INTEGER NOT NULL)",
      .executeWith "b" "INSERT INTO s (k) VALUES (?)" [.integer 1], .commit "b"]).2
    let requests : List Request := [
      .executeWith "a" "INSERT INTO t (x, k) VALUES (?, ?)" [.integer 5, .integer 1],
      .executeWith "a" "INSERT INTO t (x, k) VALUES (?, ?)" [.integer 6, .integer 1],
      .executeWith "a" "INSERT INTO s (k) VALUES (?)" [.integer 1], .columns "b" "t",
      .inject "insert" 1, .executeWith "a" "INSERT INTO s (k) VALUES (?)" [.integer 2],
      .executeWith "b" "INSERT INTO s (k) VALUES (?)" [.integer 2],
      .executeWith "a" "INSERT INTO s (k) VALUES (?)" [.integer 3], .rollback "b"]
    ∃ after, (p.run requests).2.serve (.commit "a") = (.done, after) ∧
      p.database.tables.Gains
        [⟨"t", [("x", .integer 5), ("k", .integer 1)]⟩, ⟨"s", [("k", .integer 3)]⟩]
        after.database.tables := by
  intro p requests
  have rows : (p.servings requests).filterMap (Serving.stagedRow? "a") =
      [⟨"t", [("x", .integer 5), ("k", .integer 1)]⟩, ⟨"s", [("k", .integer 3)]⟩] := by
    decide +kernel
  obtain ⟨-, after, served, gains, -⟩ := accepted_rows_commit p "a" requests (by decide +kernel)
    (by decide +kernel) (by decide +kernel) (by decide +kernel)
  exact ⟨after, served, rows ▸ gains⟩

end Pool
end RecordSink
