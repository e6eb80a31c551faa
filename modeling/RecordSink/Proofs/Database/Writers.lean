import Mathlib.Data.List.Pairwise
import RecordSink.Proofs.Database.Clearings
import RecordSink.Proofs.Database.Requests

/-! Writers next to each other and next to anything else. A writer opens a connection, stages one
row, commits it, rolls back if either fails, and closes the connection. However the requests of
writers and of other clients interleave, a writer whose commit is accepted adds its one row at that
moment, as its table is then, and a writer that fails adds none. Rows with equal keys get into a
table one after the other: before the second one is committed, a statement has taken the first. -/
namespace RecordSink

/-- A client that stores one row on a connection of its own. -/
structure Writer where
  /-- The client. -/
  client : String
  /-- The statement that inserts the row. -/
  sql : String
  /-- The parameters of the statement. -/
  parameters : List Value

namespace Writer

/-- How far a writer is. -/
inductive Phase where
  /-- It has no connection yet. -/
  | fresh
  /-- It has a connection. -/
  | connected
  /-- Its row is staged. -/
  | staged
  /-- Staging or committing its row has failed. -/
  | failed
  /-- It has committed or rolled back. -/
  | settled
  /-- It has no connection any more. -/
  | gone
  deriving DecidableEq, Repr

/-- The next request of a writer. -/
def request? (w : Writer) : Phase → Option Request
  | .fresh => some (.connect w.client)
  | .connected => some (.executeWith w.client w.sql w.parameters)
  | .staged => some (.commit w.client)
  | .failed => some (.rollback w.client)
  | .settled => some (.close w.client)
  | .gone => none

/-- How far a writer is after the answer to its request. -/
def Phase.next : Phase → Answer → Phase
  | fresh, .done => connected
  | connected, .count _ => staged
  | connected, _ => failed
  | staged, .done => settled
  | staged, _ => failed
  | failed, _ => settled
  | _, _ => gone

/-- The writer of these values. -/
def inserting (client table : String) (values : NamedValues) : Writer :=
  ⟨client, (insertStatement table (values.map Prod.fst)).text, values.map Prod.snd⟩

/-- The requests that a writer makes if nobody else makes any, at most this many. -/
def alone (w : Writer) : Nat → Phase → Pool → Pool
  | 0, _, p => p
  | n + 1, phase, p =>
    match w.request? phase with
    | none => p
    | some r => w.alone n (phase.next (p.serve r).1) (p.serve r).2

/-- A request on the writer's connection. -/
def Owns (w : Writer) (s : Serving) : Prop :=
  s.request.client? = some w.client

instance (w : Writer) (s : Serving) : Decidable (w.Owns s) :=
  inferInstanceAs (Decidable (_ = _))

/-- How far a writer is after a request of whichever client. -/
def after (w : Writer) (phase : Phase) (s : Serving) : Phase :=
  if w.Owns s then phase.next s.answer else phase

/-- All requests on the writer's connection are those that it makes, one after the other. The others
do as they like. -/
def Follows (w : Writer) : Phase → List Serving → Prop
  | _, [] => True
  | phase, s :: rest =>
    (w.Owns s → w.request? phase = some s.request) ∧ w.Follows (w.after phase s) rest

instance Follows.decidable (w : Writer) :
    (phase : Phase) → (served : List Serving) → Decidable (w.Follows phase served)
  | _, [] => .isTrue trivial
  | phase, s :: rest =>
    have := Follows.decidable w (w.after phase s) rest
    inferInstanceAs (Decidable (_ ∧ _))

/-- The writer's commit is accepted. -/
def Commits (w : Writer) (s : Serving) : Prop :=
  s.request = .commit w.client ∧ s.answer = .done

instance (w : Writer) (s : Serving) : Decidable (w.Commits s) :=
  inferInstanceAs (Decidable (_ ∧ _))

/-- Staging or committing the writer's row fails. -/
def Fails (w : Writer) (s : Serving) : Prop :=
  (s.request = .executeWith w.client w.sql w.parameters ∨ s.request = .commit w.client) ∧
    ∃ f, s.answer = .failed f

/-- The writer's row is added to a table, and nothing else changes. -/
structure Adds (w : Writer) (s : Serving) (name : String) (t : Table) (row : Row) : Prop where
  held : s.before.tables.get? name = some t
  made : ∃ values, Dialogue.rowToStage w.sql w.parameters = .ok ⟨name, values⟩ ∧
    t.rowOf values = .ok row
  allowed : List.Forall₂ Column.Allows t.columns row
  unseen : ∀ key, t.keyOf row = some key → t.hasKey key = false
  added : s.after.tables = s.before.tables.set name (t.append row)

end Writer

/-! ## A writer alone -/

namespace Writer

variable {w : Writer} {phase : Phase} {p q : Pool} {r : Request} {s : Serving} {db : Database}
variable {entries : Entries (List StagedRow)} {rows : List StagedRow}

private theorem alone_step (n : Nat) (next : w.request? phase = some r) {answer : Answer}
    (served : p.serve r = (answer, q)) :
    w.alone (n + 1) phase p = w.alone n (phase.next answer) q := by
  rw [alone, next]
  dsimp only
  rw [served]

private theorem staged?_self :
    Pool.staged? ⟨db, entries.put w.client rows⟩ w.client = some rows :=
  (Entries.lookup_put ..).trans (if_pos rfl)

private theorem serve_self (d : Dialogue α) (answer : α → Answer)
    (asks : ∀ p : Pool, p.serve r = p.talk w.client d answer) :
    Pool.serve ⟨db, entries.put w.client rows⟩ r = ((Pool.heard answer (d ⟨db, rows⟩)).1,
      ⟨(Pool.heard answer (d ⟨db, rows⟩)).2.database,
        (entries.put w.client rows).put w.client (Pool.heard answer (d ⟨db, rows⟩)).2.staged⟩) := by
  rw [asks, Pool.talk_eq, staged?_self]

private theorem alone_settled (n : Nat) :
    (w.alone (n + 1) .settled ⟨db, entries.put w.client rows⟩).database = db.release := by
  have closed : Pool.serve ⟨db, entries.put w.client rows⟩ (.close w.client) =
      (.truth true, ⟨db.release, (entries.put w.client rows).remove w.client⟩) := by
    simp only [Pool.serve, Pool.close, staged?_self]
  rw [alone_step n rfl closed]
  cases n <;> rfl

private theorem alone_failed (n : Nat) :
    (w.alone (n + 2) .failed ⟨db, entries.put w.client rows⟩).database = db.release := by
  rw [alone_step (n + 1) rfl (serve_self Dialogue.rollback (fun _ => .done) fun _ => rfl)]
  exact alone_settled n

private theorem alone_eq (free : p.staged? w.client = none) :
    (w.alone 5 .fresh p).database = ((Action.onConnection do
      let _ ← Dialogue.executeWith w.sql w.parameters
      Dialogue.commit).attempt p.database).2 := by
  rw [Action.attempt, Action.onConnection_eq]
  cases opened : Action.connect p.database with
  | error e db =>
    have served : p.serve (.connect w.client) = (.failed e, { p with database := db }) := by
      simp only [Pool.serve, Pool.connect, opened]
    rw [alone_step 4 rfl served]
    rfl
  | ok u db =>
    have served : p.serve (.connect w.client) = (.done, ⟨db, p.connections.put w.client []⟩) := by
      simp only [Pool.serve, Pool.connect, opened, free]
      rfl
    rw [alone_step 4 rfl served, alone_step 3 rfl (serve_self _ .count fun _ => rfl)]
    dsimp only
    rw [bind_apply]
    cases Dialogue.executeWith w.sql w.parameters ⟨db, []⟩ with
    | error e link => exact alone_failed 1
    | ok k link =>
      dsimp only [Pool.heard]
      rw [alone_step 2 rfl (serve_self _ (fun _ => .done) fun _ => rfl)]
      cases Dialogue.commit link with
      | error e after => exact alone_failed 0
      | ok u after => exact alone_settled 1

/-- A writer that nobody interrupts does to the database what inserting its values does. -/
theorem alone_insertRow {client table : String} {values : NamedValues}
    (free : p.staged? client = none) :
    ((inserting client table values).alone 5 .fresh p).database =
      ((Action.insertRow table values).attempt p.database).2 :=
  @alone_eq (inserting client table values) p free

/-! ## A writer among others -/

theorem follows_append {front back : List Serving} : w.Follows phase (front ++ back) ↔
    w.Follows phase front ∧ w.Follows (front.foldl w.after phase) back := by
  induction front generalizing phase with
  | nil => exact (and_iff_right trivial).symm
  | cons s front ih =>
    rw [List.cons_append, Follows, Follows, ih, List.foldl_cons, and_assoc]

/-- What the pool holds for a writer. -/
private def Stands (w : Writer) (p : Pool) : Phase → Prop
  | .connected => p.staged? w.client = some []
  | .staged => ∃ s, Dialogue.rowToStage w.sql w.parameters = .ok s ∧
      p.staged? w.client = some [s]
  | _ => True

private theorem stands_connect : w.Stands (p.connect w.client).2
    (Phase.fresh.next (p.connect w.client).1) := by
  unfold Pool.connect
  cases Action.connect p.database with
  | error e db => trivial
  | ok u db => exact (Pool.staged?_put _ _).trans (if_pos rfl)

private theorem stands_executeWith (held : p.staged? w.client = some []) :
    w.Stands (p.serve (.executeWith w.client w.sql w.parameters)).2
      (Phase.connected.next (p.serve (.executeWith w.client w.sql w.parameters)).1) := by
  change w.Stands (p.talk w.client (Dialogue.executeWith w.sql w.parameters) .count).2
    (Phase.connected.next (p.talk w.client (Dialogue.executeWith w.sql w.parameters) .count).1)
  unfold Pool.talk
  rw [held]
  dsimp only
  rw [Dialogue.executeWith_eq]
  cases p.database.faults.strike? (Sql.verb w.sql) with
  | some rest => trivial
  | none =>
    cases made : Dialogue.rowToStage w.sql w.parameters with
    | error cause => trivial
    | ok s =>
      dsimp only
      cases p.database.tables.checkStaging [] s with
      | error m => trivial
      | ok u => exact ⟨s, made, (Pool.staged?_put _ _).trans (if_pos rfl)⟩

private theorem stands_serve (stands : w.Stands p phase)
    (follows : w.Owns (p.serving r) → w.request? phase = some r) :
    w.Stands (p.serve r).2 (w.after phase (p.serving r)) := by
  unfold after
  by_cases own : w.Owns (p.serving r)
  · rw [if_pos own]
    have next := follows own
    cases phase with
    | fresh =>
      cases next
      exact stands_connect
    | connected =>
      cases next
      exact stands_executeWith stands
    | staged =>
      generalize (p.serving r).answer = answer
      cases answer <;> trivial
    | failed => trivial
    | settled => trivial
    | gone => cases next
  · rw [if_neg own]
    have same := Pool.staged?_of_other (p := p) own
    cases phase with
    | connected => exact same.trans stands
    | staged =>
      obtain ⟨s, made, held⟩ := stands
      exact ⟨s, made, same.trans held⟩
    | fresh => trivial
    | failed => trivial
    | settled => trivial
    | gone => trivial

private theorem stands_run (requests : List Request) (stands : w.Stands p phase)
    (follows : w.Follows phase (p.servings requests)) :
    w.Stands (p.run requests).2 ((p.servings requests).foldl w.after phase) := by
  induction requests generalizing p phase with
  | nil => exact stands
  | cons r rest ih => exact ih (stands_serve stands follows.1) follows.2

/-- A request of a writer other than an accepted commit changes no table. -/
private theorem tables_of_not_commits (next : w.request? phase = some r)
    (other : ¬ w.Commits (p.serving r)) :
    (p.serve r).2.database.tables = p.database.tables := by
  have step := Pool.step_serve p r
  generalize served : (p.serve r).2 = q at step
  cases step with
  | idle tables => exact tables
  | executed => cases phase <;> cases next
  | staged => rfl
  | committed held calm committed =>
    cases phase with
    | staged =>
      cases next
      exact absurd ⟨rfl, congrArg Prod.fst (Pool.serve_commit held calm committed)⟩ other
    | fresh => cases next
    | connected => cases next
    | failed => cases next
    | settled => cases next
    | gone => cases next

/-- An accepted commit of a writer adds its row. -/
private theorem adds_of_commits (well : p.database.tables.WellFormed) (stands : w.Stands p phase)
    (next : w.request? phase = some r) (commits : w.Commits (p.serving r)) :
    ∃ name t row, w.Adds (p.serving r) name t row := by
  obtain ⟨request, answer⟩ := commits
  obtain rfl : r = .commit w.client := request
  cases phase with
  | staged =>
    obtain ⟨⟨name, values⟩, made, held⟩ := stands
    have said : (p.talk w.client Dialogue.commit fun _ => .done).1 = .done := answer
    simp only [Pool.talk, held, Dialogue.commit_eq] at said
    cases calm : p.database.faults.strike? "COMMIT" with
    | some rest => rw [calm] at said; cases said
    | none =>
      rw [calm] at said
      cases committed : p.database.tables.commit [⟨name, values⟩] with
      | error m => simp only [committed] at said; cases said
      | ok tables =>
        have served := Pool.serve_commit held calm committed
        rw [Catalog.commit_singleton] at committed
        obtain ⟨row, fits, rfl⟩ := map_ok_iff.1 committed
        obtain ⟨t, there, built, unseen⟩ := Catalog.rowFor_ok_iff.1 fits
        refine ⟨name, t, row, there, ⟨values, made, built⟩,
          Table.allowed_of_rowOf (well.tables name t there).distinct built, unseen, ?_⟩
        rw [Pool.serving, served]
        exact Catalog.appendRow_eq_set there
  | fresh => cases next
  | connected => cases next
  | failed => cases next
  | settled => cases next
  | gone => cases next

/-! ### In which order -/

/-- A writer that has nothing more to do than to roll back and to close. -/
private def Phase.Late : Phase → Prop
  | failed | settled | gone => True
  | fresh | connected | staged => False

/-- A writer settles when its commit is accepted, or when staging or committing its row fails. -/
private def Settles (w : Writer) (s : Serving) : Prop :=
  w.Commits s ∨ w.Fails s

private theorem owns_of_settles (settles : w.Settles s) : w.Owns s := by
  rcases settles with ⟨same, -⟩ | ⟨same | same, -⟩ <;> exact congrArg Request.client? same

private theorem late_of_settles (next : w.request? phase = some s.request)
    (settles : w.Settles s) : (phase.next s.answer).Late := by
  rcases settles with ⟨same, answer⟩ | ⟨same | same, f, answer⟩ <;> rw [same] at next <;>
    rw [answer] <;> cases phase <;> first | trivial | cases next

private theorem not_settles_of_late (late : phase.Late) (next : w.request? phase = some s.request) :
    ¬ w.Settles s := by
  rintro (⟨same, -⟩ | ⟨same | same, -⟩) <;> rw [same] at next <;> cases phase <;>
    first | exact False.elim late | cases next

private theorem late_after (late : phase.Late) (s : Serving) : (w.after phase s).Late := by
  unfold after
  split
  · cases phase <;> trivial
  · exact late

private theorem none_settles_of_late {served : List Serving} (late : phase.Late)
    (follows : w.Follows phase served) : ∀ s ∈ served, ¬ w.Settles s := by
  induction served generalizing phase with
  | nil => exact List.forall_mem_nil _
  | cons s rest ih =>
    obtain ⟨own, later⟩ := follows
    have first : ¬ w.Settles s := fun settles =>
      not_settles_of_late late (own (owns_of_settles settles)) settles
    exact List.forall_mem_cons.2 ⟨first, ih (late_after late s) later⟩

/-- A writer settles at most once. -/
private theorem settles_once {served : List Serving} (follows : w.Follows phase served) :
    served.Pairwise fun s t => ¬ (w.Settles s ∧ w.Settles t) := by
  induction served generalizing phase with
  | nil => exact .nil
  | cons s rest ih =>
    refine .cons (fun t later => ?_) (ih follows.2)
    rintro ⟨first, second⟩
    have own := owns_of_settles first
    have late : (w.after phase s).Late := by
      rw [after, if_pos own]
      exact late_of_settles (follows.1 own) first
    exact none_settles_of_late late follows.2 t later second

/-! ### In a whole run -/

variable {limit : Nat} {requests : List Request}

/-- Whatever is served in a run is served when the writer stands where its requests have led it. -/
private theorem stands_of_mem (follows : w.Follows .fresh ((Pool.empty limit).servings requests))
    (among : s ∈ (Pool.empty limit).servings requests) :
    ∃ p r phase, s = p.serving r ∧ p.database.tables.WellFormed ∧ w.Stands p phase ∧
      (w.Owns s → w.request? phase = some r) := by
  obtain ⟨front, back, split⟩ := List.mem_iff_append.1 among
  obtain ⟨earlier, r, later, -, rfl, rfl, -⟩ := Pool.servings_split split
  rw [split, follows_append] at follows
  exact ⟨_, r, _, rfl, Pool.wellFormed_reachable limit earlier,
    stands_run earlier (show w.Stands (Pool.empty limit) .fresh from trivial) follows.1,
    follows.2.1⟩

end Writer

namespace Pool

/-- Between two rows with equal keys in one table, a statement clears the key. -/
private theorem clears_between {limit : Nat} {requests : List Request}
    {front between back : List Serving} {first second : Serving} {v w : Writer} {name : String}
    {t u : Table} {a b : Row} {k l : Value}
    (split : (empty limit).servings requests = front ++ first :: (between ++ second :: back))
    (adds : v.Adds first name t a) (adds' : w.Adds second name u b)
    (keyed : t.keyOf a = some k) (keyed' : u.keyOf b = some l) (same : k.equals l = true) :
    ∃ s ∈ between, s.Clears name l := by
  obtain ⟨earlier, r, later, -, -, rfl, rest⟩ := servings_split split
  obtain ⟨middle, r', last, -, rfl, rfl, -⟩ := servings_split rest.symm
  have well : (((empty limit).run earlier).2.serve r).2.database.tables.WellFormed :=
    wellFormed_of_step (step_serve _ r) (wellFormed_reachable limit earlier)
  have held : (((empty limit).run earlier).2.serve r).2.database.tables.get? name =
      some (t.append a) :=
    (congrArg (·.get? name) adds.added).trans ((Catalog.get?_set _ _ _ _).trans (if_pos rfl))
  have there : (t.append a).hasKey l = true := by
    refine List.any_eq_true.2 ⟨a, List.mem_append_right _ (.head _), ?_⟩
    have own : (t.append a).keyOf a = some k := keyed
    rw [Table.rowHasKey, own]
    exact same
  rcases hasKey_of_run middle well held there with ⟨v, found, kept⟩ | cleared
  · have met : some v = some u := found.symm.trans adds'.held
    cases met
    cases kept.symm.trans (adds'.unseen l keyed')
  · exact cleared

/-- **Writers store their rows once or not at all.** However the requests of writers and of other
clients interleave, an accepted commit of a writer adds its one row to its table as it is then, no
other request of the writer changes any table, and a writer settles once. A second row with the key
of the first is added only after a statement has taken the last row with this key. -/
theorem writers_add_once (limit : Nat) (requests : List Request) (writers : List Writer)
    (follow : ∀ w ∈ writers, w.Follows .fresh ((empty limit).servings requests)) :
    let served := (empty limit).servings requests
    (∀ w ∈ writers,
      (∀ s ∈ served, w.Commits s → ∃ name t row, w.Adds s name t row) ∧
      (∀ s ∈ served, w.Owns s → ¬ w.Commits s → s.after.tables = s.before.tables) ∧
      (served.Pairwise fun s t => ¬ (w.Commits s ∧ w.Commits t)) ∧
      ((∃ s ∈ served, w.Fails s) → ∀ s ∈ served, ¬ w.Commits s)) ∧
    ∀ v ∈ writers, ∀ w ∈ writers, ∀ front first between second back,
      served = front ++ first :: (between ++ second :: back) →
      ∀ name t u a b k l, v.Adds first name t a → w.Adds second name u b →
        t.keyOf a = some k → u.keyOf b = some l → k.equals l = true →
        ∃ s ∈ between, s.Clears name l := by
  intro served
  refine ⟨fun w among => ⟨?_, ?_, ?_, ?_⟩, ?_⟩
  · intro s there commits
    obtain ⟨p, r, phase, rfl, well, stands, next⟩ := Writer.stands_of_mem (follow w among) there
    exact Writer.adds_of_commits well stands (next (Writer.owns_of_settles (.inl commits))) commits
  · intro s there own other
    obtain ⟨p, r, phase, rfl, -, -, next⟩ := Writer.stands_of_mem (follow w among) there
    exact Writer.tables_of_not_commits (next own) other
  · refine (Writer.settles_once (follow w among)).imp fun once both => once ?_
    exact ⟨.inl both.1, .inl both.2⟩
  · rintro ⟨s, there, fails⟩ t later commits
    have apart : s ≠ t := by
      rintro rfl
      obtain ⟨f, answer⟩ := fails.2
      cases answer.symm.trans commits.2
    have symmetric : Std.Symm fun s t => ¬ (w.Settles s ∧ w.Settles t) :=
      ⟨fun _ _ other both => other both.symm⟩
    exact (Writer.settles_once (follow w among)).forall there later apart ⟨.inr fails, .inl commits⟩
  · rintro v - w - front first between second back split name t u a b k l adds adds' keyed keyed' same
    exact clears_between split adds adds' keyed keyed' same

/-- Two writers of one key both store their rows: after the first commit the table is emptied. -/
theorem emptied_between_writers :
    let a : Writer := ⟨"a", "INSERT INTO t (k) VALUES (?)", [.integer 1]⟩
    let b : Writer := ⟨"b", "INSERT INTO t (k) VALUES (?)", [.integer 1]⟩
    let served := (empty 3).servings [.connect "c",
      .execute "c" "CREATE TABLE t (k INTEGER PRIMARY KEY)", .connect "a", .connect "b",
      .executeWith "a" "INSERT INTO t (k) VALUES (?)" [.integer 1],
      .executeWith "b" "INSERT INTO t (k) VALUES (?)" [.integer 1],
      .execute "c" "ALTER TABLE t ADD COLUMN x INTEGER", .commit "a",
      .execute "c" "DELETE FROM t", .inject "METADATA" 1, .commit "b", .close "a", .close "b"]
    ((∃ s ∈ served, a.Commits s) ∧ ∃ s ∈ served, b.Commits s) ∧
      ∀ s ∈ served, b.Commits s → ∃ name t row, b.Adds s name t row := by
  intro a b served
  refine ⟨by decide +kernel, ?_⟩
  exact ((writers_add_once 3 _ [a, b] (by decide +kernel)).1 b (.tail _ (.head _))).1

end Pool
end RecordSink
