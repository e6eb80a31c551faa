import RecordSink.Proofs.Database.Servings

/-! Rows that are staged and never committed leave no trace. A run in which a client forgets
whatever it stages before it commits is compared with the run without its staging requests: all
other requests get the same answers and leave the same database. The two runs differ in nothing but
the rows that this client has staged, and only a commit of this client could show those. -/
namespace RecordSink

/-- Whether a request stages a row for this client, if it is accepted. -/
def Request.stagesFor (client : String) : Request → Bool
  | .executeWith c _ _ => c == client
  | _ => false

namespace Serving

/-- The client has staged a row. -/
def Stages (client : String) (s : Serving) : Prop :=
  s.request.stagesFor client = true ∧ s.answer = .count 1

/-- The client has forgotten its staged rows: it rolled back, or its connection was closed or
replaced by another one. -/
def Forgets (client : String) (s : Serving) : Prop :=
  s.request = .rollback client ∨ s.request = .close client ∨
    (s.request = .connect client ∧ s.answer = .done)

instance (client : String) (s : Serving) : Decidable (s.Stages client) :=
  inferInstanceAs (Decidable (_ ∧ _))

instance (client : String) (s : Serving) : Decidable (s.Forgets client) :=
  inferInstanceAs (Decidable (_ ∨ _))

end Serving

/-- Before every commit of the client, it has forgotten its staged rows. -/
def Spared (client : String) (served : List Serving) : Prop :=
  ∀ between committing back, served = between ++ committing :: back →
    committing.request = .commit client → ∃ s ∈ between, s.Forgets client

/-- Between every accepted request to stage a row and every later commit of the client, it has
forgotten its staged rows. -/
def Abandons (client : String) (served : List Serving) : Prop :=
  ∀ front staging back, served = front ++ staging :: back → staging.Stages client →
    Spared client back

variable {client : String} {s : Serving} {served : List Serving}

theorem spared_cons_iff : Spared client (s :: served) ↔
    s.Forgets client ∨ (s.request ≠ .commit client ∧ Spared client served) := by
  constructor
  · intro spared
    by_cases forgets : s.Forgets client
    · exact .inl forgets
    · refine .inr ⟨fun commits => ?_, fun between committing back split commits => ?_⟩
      · obtain ⟨t, none_there, -⟩ := spared [] s served rfl commits
        cases none_there
      · obtain ⟨t, among, there⟩ :=
          spared (s :: between) committing back (congrArg (s :: ·) split) commits
        rcases List.mem_cons.1 among with rfl | later
        · exact absurd there forgets
        · exact ⟨t, later, there⟩
  · rintro held between committing back split commits
    cases between with
    | nil =>
      obtain ⟨rfl, -⟩ := List.cons.inj split
      rcases held with (there | there | ⟨there, -⟩) | ⟨other, -⟩
      · cases there.symm.trans commits
      · cases there.symm.trans commits
      · cases there.symm.trans commits
      · exact absurd commits other
    | cons first between =>
      obtain ⟨rfl, tail⟩ := List.cons.inj split
      rcases held with forgets | ⟨-, spared⟩
      · exact ⟨s, .head _, forgets⟩
      · obtain ⟨t, later, there⟩ := spared between committing back tail commits
        exact ⟨t, .tail _ later, there⟩

theorem abandons_cons_iff : Abandons client (s :: served) ↔
    (s.Stages client → Spared client served) ∧ Abandons client served := by
  constructor
  · exact fun abandons => ⟨abandons [] s served rfl, fun front staging back split =>
      abandons (s :: front) staging back (congrArg (s :: ·) split)⟩
  · rintro ⟨first, rest⟩ front staging back split
    cases front with
    | nil =>
      obtain ⟨rfl, rfl⟩ := List.cons.inj split
      exact first
    | cons t front =>
      obtain ⟨rfl, tail⟩ := List.cons.inj split
      exact rest front staging back tail

instance Spared.decidable : (served : List Serving) → Decidable (Spared client served)
  | [] => .isTrue fun between _ _ split => by cases between <;> cases split
  | _ :: rest =>
    have := Spared.decidable rest
    decidable_of_iff _ spared_cons_iff.symm

instance Abandons.decidable : (served : List Serving) → Decidable (Abandons client served)
  | [] => .isTrue fun front _ _ split => by cases front <;> cases split
  | _ :: rest =>
    have := Abandons.decidable rest
    decidable_of_iff _ abandons_cons_iff.symm

namespace Pool

variable {p q : Pool} {r : Request} {c : String}

/-! ## Two runs side by side -/

/-- A dialogue that is told the same, and does the same to the database, with nothing staged. -/
private def Blind (d : Dialogue α) (answer : α → Answer) (link : Link) : Prop :=
  heard answer (d { link with staged := [] }) =
    ((heard answer (d link)).1, { (heard answer (d link)).2 with staged := [] })

private theorem blind_ofAction (a : Action α) (answer : α → Answer) (link : Link) :
    Blind (Dialogue.ofAction a) answer link := by
  unfold Blind Dialogue.ofAction
  cases a link.database <;> rfl

private theorem blind_commit (db : Database) (answer : Unit → Answer) :
    Blind Dialogue.commit answer ⟨db, []⟩ := by
  unfold Blind
  rw [Dialogue.commit_eq]
  cases db.faults.strike? "COMMIT" with
  | some rest => rfl
  | none => cases db.tables.commit [] <;> rfl

/-- Two pools that differ in nothing but the rows that the client has staged: none in the second. -/
private structure Twins (client : String) (p q : Pool) : Prop where
  database : q.database = p.database
  others : ∀ other, other ≠ client → q.staged? other = p.staged? other
  held : q.staged? client = (p.staged? client).map fun _ => []

private theorem Twins.put {rows kept : List StagedRow} (twins : Twins client p q) (db : Database)
    (same : c ≠ client → kept = rows) (none_kept : c = client → kept = []) :
    Twins client ⟨db, p.connections.put c rows⟩ ⟨db, q.connections.put c kept⟩ where
  database := rfl
  others other apart := by
    rw [staged?_put, staged?_put, twins.others other apart]
    split
    · rename_i own
      rw [same (own ▸ apart)]
    · rfl
  held := by
    rw [staged?_put, staged?_put, twins.held]
    split
    · rename_i own
      rw [none_kept own.symm]
      rfl
    · rfl

private theorem Twins.talk (twins : Twins client p q) (d : Dialogue α) (answer : α → Answer)
    (blind : c = client → ∀ rows, p.staged? client = some rows →
      Blind d answer ⟨p.database, rows⟩) :
    (q.talk c d answer).1 = (p.talk c d answer).1 ∧
      Twins client (p.talk c d answer).2 (q.talk c d answer).2 := by
  rw [talk_eq, talk_eq, twins.database]
  by_cases own : c = client
  · subst own
    rw [twins.held]
    cases held : p.staged? c with
    | none => exact ⟨rfl, twins⟩
    | some rows =>
      have alike := blind rfl rows held
      unfold Blind at alike
      rw [Option.map_some]
      dsimp only
      rw [alike]
      exact ⟨rfl, twins.put _ (absurd rfl) fun _ => rfl⟩
  · rw [twins.others c own]
    cases p.staged? c with
    | none => exact ⟨rfl, twins⟩
    | some rows => exact ⟨rfl, twins.put _ (fun _ => rfl) fun same => absurd same own⟩

private theorem Twins.connect (twins : Twins client p q) (c : String) :
    (q.connect c).1 = (p.connect c).1 ∧ Twins client (p.connect c).2 (q.connect c).2 := by
  have held : (q.staged? c).isSome = (p.staged? c).isSome := by
    by_cases own : c = client
    · rw [own, twins.held, Option.isSome_map]
    · rw [twins.others c own]
  unfold Pool.connect
  rw [twins.database]
  cases Action.connect p.database with
  | error e db => exact ⟨rfl, ⟨rfl, twins.others, twins.held⟩⟩
  | ok u db =>
    dsimp only
    rw [held]
    exact ⟨rfl, twins.put _ (fun _ => rfl) fun _ => rfl⟩

private theorem Twins.close (twins : Twins client p q) (c : String) :
    (q.close c).1 = (p.close c).1 ∧ Twins client (p.close c).2 (q.close c).2 := by
  have removed : Twins client ⟨p.database.release, p.connections.remove c⟩
      ⟨p.database.release, q.connections.remove c⟩ := by
    refine ⟨rfl, fun other apart => ?_, ?_⟩
    · have same := twins.others other apart
      unfold staged? at same ⊢
      rw [Entries.lookup_remove, Entries.lookup_remove, same]
    · have same := twins.held
      unfold staged? at same ⊢
      rw [Entries.lookup_remove, Entries.lookup_remove, same]
      split <;> rfl
  unfold Pool.close
  rw [twins.database]
  by_cases own : c = client
  · subst own
    rw [twins.held]
    cases p.staged? c with
    | none => exact ⟨rfl, twins⟩
    | some rows => exact ⟨rfl, removed⟩
  · rw [twins.others c own]
    cases p.staged? c with
    | none => exact ⟨rfl, twins⟩
    | some rows => exact ⟨rfl, removed⟩

/-- Only a commit of the client could show what it has staged. -/
private theorem Twins.serve (twins : Twins client p q) (other : r.stagesFor client = false)
    (clean : r = .commit client → ∀ rows, p.staged? client = some rows → rows = []) :
    (q.serve r).1 = (p.serve r).1 ∧ Twins client (p.serve r).2 (q.serve r).2 := by
  cases r with
  | connect c => exact twins.connect c
  | close c =>
    obtain ⟨same, after⟩ := twins.close c
    exact ⟨congrArg Answer.truth same, after⟩
  | execute c sql => exact twins.talk _ _ fun _ _ _ => blind_ofAction _ _ _
  | executeWith c sql parameters =>
    exact twins.talk _ _ fun own => by simp [Request.stagesFor, own] at other
  | commit c =>
    refine twins.talk _ _ fun own rows held => ?_
    subst own
    cases clean rfl rows held
    exact blind_commit _ _
  | rollback c => exact twins.talk _ _ fun _ _ _ => rfl
  | tableExists c table => exact twins.talk _ _ fun _ _ _ => blind_ofAction _ _ _
  | columns c table => exact twins.talk _ _ fun _ _ _ => blind_ofAction _ _ _
  | inject verb n =>
    refine ⟨rfl, ?_, twins.others, twins.held⟩
    exact congrArg (·.inject verb n) twins.database

/-! ## Without faults -/

/-- No fault is pending. -/
private def Sound (p : Pool) : Prop :=
  ∀ verb, p.database.faults.strike? verb = none

private theorem talk_keeps (Kept : Database → Prop) (start : Kept p.database) (d : Dialogue α)
    (answer : α → Answer) (keeps : ∀ rows, Kept (heard answer (d ⟨p.database, rows⟩)).2.database) :
    Kept (p.talk c d answer).2.database := by
  rw [talk_eq]
  cases p.staged? c with
  | none => exact start
  | some rows => exact keeps rows

private theorem heard_executeWith (sound : Sound p) (sql : String) (parameters : List Value)
    (rows : List StagedRow) (answer : Nat → Answer) :
    (heard answer (Dialogue.executeWith sql parameters ⟨p.database, rows⟩)).2.database =
      p.database := by
  rw [Dialogue.executeWith_eq, sound]
  cases Dialogue.rowToStage sql parameters with
  | error cause => rfl
  | ok s =>
    dsimp only
    cases p.database.tables.checkStaging rows s <;> rfl

/-- Staging a row leaves the database alone. -/
private theorem database_executeWith (sound : Sound p) (sql : String) (parameters : List Value) :
    (p.serve (.executeWith c sql parameters)).2.database = p.database :=
  talk_keeps (· = p.database) rfl _ _ fun rows => heard_executeWith sound sql parameters rows _

/-- Without faults that are injected, none will ever be pending. -/
private theorem Sound.serve (sound : Sound p) (harmless : ∀ verb n, r ≠ .inject verb n) :
    Sound (p.serve r).2 := by
  have same : (p.serve r).2.database.faults = p.database.faults := by
    cases r with
    | connect c =>
      change (p.connect c).2.database.faults = _
      unfold Pool.connect
      rw [Action.connect_eq, sound]
      by_cases free : p.database.openCount < p.database.limit
      · rw [if_pos free]
        dsimp only
        split <;> rfl
      · rw [if_neg free]
    | close c =>
      change (p.close c).2.database.faults = _
      unfold Pool.close
      cases p.staged? c <;> rfl
    | execute c sql =>
      refine talk_keeps (·.faults = p.database.faults) rfl _ _ fun rows => ?_
      rw [Dialogue.execute_eq, sound]
      dsimp only
      cases (Sql.parse sql).mapError .statement >>= p.database.tables.apply <;> rfl
    | executeWith c sql parameters => rw [database_executeWith sound]
    | commit c =>
      refine talk_keeps (·.faults = p.database.faults) rfl _ _ fun rows => ?_
      rw [Dialogue.commit_eq, sound]
      dsimp only
      cases p.database.tables.commit rows <;> rfl
    | rollback c => exact talk_keeps (·.faults = p.database.faults) rfl _ _ fun rows => rfl
    | tableExists c table =>
      refine talk_keeps (·.faults = p.database.faults) rfl _ _ fun rows => ?_
      rw [Dialogue.tableExists_eq, sound]
      rfl
    | columns c table =>
      refine talk_keeps (·.faults = p.database.faults) rfl _ _ fun rows => ?_
      rw [Dialogue.columns_eq, sound]
      rfl
    | inject verb n => exact absurd rfl (harmless verb n)
  intro verb
  rw [same]
  exact sound verb

/-! ## Leaving out what was staged -/

/-- A request to stage a row that is left out leaves the pools twins. -/
private theorem Twins.skip (twins : Twins client p q) (sound : Sound p)
    (own : r.stagesFor client = true) : Twins client (p.serve r).2 q := by
  cases r with
  | executeWith c sql parameters =>
    obtain rfl : c = client := eq_of_beq own
    refine ⟨twins.database.trans (database_executeWith sound sql parameters).symm,
      fun other apart => (twins.others other apart).trans (staged?_of_other ?_).symm, ?_⟩
    · exact fun same => apart (Option.some.inj same).symm
    · rw [twins.held]
      change _ = Option.map _ ((p.talk c (Dialogue.executeWith sql parameters) _).2.staged? c)
      rw [talk_eq]
      cases held : p.staged? c with
      | none => rw [held]
      | some rows =>
        dsimp only
        rw [staged?_put, if_pos rfl]
        rfl
  | _ => cases own

private theorem not_dirty_of_forgets {row : StagedRow} {rows : List StagedRow}
    (forgets : (p.serving r).Forgets client) :
    (p.serve r).2.staged? client ≠ some (row :: rows) := by
  intro dirty
  rcases forgets with same | same | ⟨same, answered⟩
  · obtain rfl : r = .rollback client := same
    change (p.talk client Dialogue.rollback _).2.staged? client = _ at dirty
    rw [talk_eq] at dirty
    cases held : p.staged? client with
    | none => rw [held] at dirty; cases held.symm.trans dirty
    | some rows =>
      rw [held] at dirty
      dsimp only at dirty
      rw [staged?_put, if_pos rfl] at dirty
      cases dirty
  · obtain rfl : r = .close client := same
    change (p.close client).2.staged? client = _ at dirty
    unfold Pool.close at dirty
    cases held : p.staged? client with
    | none => rw [held] at dirty; cases held.symm.trans dirty
    | some rows =>
      rw [held] at dirty
      change ((p.connections.remove client).lookup client) = _ at dirty
      rw [Entries.lookup_remove, if_pos rfl] at dirty
      cases dirty
  · obtain rfl : r = .connect client := same
    change (p.connect client).1 = _ at answered
    change (p.connect client).2.staged? client = _ at dirty
    unfold Pool.connect at answered dirty
    cases opened : Action.connect p.database with
    | error e db => rw [opened] at answered; cases answered
    | ok u db =>
      rw [opened] at dirty
      dsimp only at dirty
      rw [staged?_put, if_pos rfl] at dirty
      cases dirty

/-- Rows that are staged were staged before, unless the request has staged one. -/
private theorem dirty_of_serve {row : StagedRow} {rows : List StagedRow}
    (dirty : (p.serve r).2.staged? client = some (row :: rows)) :
    (p.serving r).Stages client ∨ ∃ row rows, p.staged? client = some (row :: rows) := by
  have step := step_serve p r
  generalize (p.serve r).2 = q at dirty step
  cases step with
  | idle tables kept =>
    rcases kept client _ dirty with none_left | same
    · cases none_left
    · exact .inr ⟨row, rows, same⟩
  | executed held =>
    rw [staged?_put] at dirty
    split at dirty
    · rename_i own
      exact .inr ⟨row, rows, (own ▸ held).trans dirty⟩
    · exact .inr ⟨row, rows, dirty⟩
  | @staged c staged sql parameters s held calm made checked =>
    by_cases own : client = c
    · subst own
      exact .inl ⟨beq_self_eq_true _, congrArg Prod.fst (serve_executeWith held calm made checked)⟩
    · rw [staged?_put, if_neg own] at dirty
      exact .inr ⟨row, rows, dirty⟩
  | committed held =>
    rw [staged?_put] at dirty
    split at dirty
    · cases dirty
    · exact .inr ⟨row, rows, dirty⟩

private theorem servings_filter (requests : List Request)
    (harmless : ∀ verb n, .inject verb n ∉ requests) (twins : Twins client p q) (sound : Sound p)
    (spared : (∃ row rows, p.staged? client = some (row :: rows)) →
      Spared client (p.servings requests))
    (abandons : Abandons client (p.servings requests)) :
    q.servings (requests.filter fun r => !r.stagesFor client) =
      (p.servings requests).filter fun s => !s.request.stagesFor client := by
  induction requests generalizing p q with
  | nil => rfl
  | cons r rest ih =>
    rw [servings_cons, abandons_cons_iff] at abandons
    rw [servings_cons, spared_cons_iff] at spared
    have sound_after : Sound (p.serve r).2 :=
      sound.serve fun verb n same => harmless verb n (same ▸ .head _)
    have harmless_after : ∀ verb n, .inject verb n ∉ rest := fun verb n later =>
      harmless verb n (.tail _ later)
    have spared_after : (∃ row rows, (p.serve r).2.staged? client = some (row :: rows)) →
        Spared client ((p.serve r).2.servings rest) := by
      rintro ⟨row, rows, dirty⟩
      rcases dirty_of_serve dirty with stages | before
      · exact abandons.1 stages
      · exact (spared before).elim (fun forgets => absurd dirty (not_dirty_of_forgets forgets))
          And.right
    rw [servings_cons]
    cases own : r.stagesFor client with
    | true =>
      rw [List.filter_cons_of_neg (by simp [own]), List.filter_cons_of_neg (by simp [serving, own])]
      exact ih harmless_after (twins.skip sound own) sound_after spared_after abandons.2
    | false =>
      have clean : r = .commit client → ∀ rows, p.staged? client = some rows → rows = [] := by
        rintro rfl rows held
        cases rows with
        | nil => rfl
        | cons row rows =>
          rcases spared ⟨row, rows, held⟩ with (there | there | ⟨there, -⟩) | ⟨other, -⟩
          · cases there
          · cases there
          · cases there
          · exact absurd rfl other
      obtain ⟨same, after⟩ := twins.serve own clean
      have served : q.serving r = p.serving r := by
        rw [serving, serving, same, twins.database, after.database]
      rw [List.filter_cons_of_pos (by simp [own]), List.filter_cons_of_pos (by simp [serving, own]),
        servings_cons, served, ih harmless_after after sound_after spared_after abandons.2]

/-- **Uncommitted rows leave no trace.** Leaving out all requests of such a client to stage rows
changes neither the answer to any other request nor the database that it meets and leaves. -/
theorem abandoned_rows_leave_no_trace (limit : Nat) (client : String) (requests : List Request)
    (harmless : ∀ verb n, .inject verb n ∉ requests)
    (abandons : Abandons client ((empty limit).servings requests)) :
    (empty limit).servings (requests.filter fun r => !r.stagesFor client) =
      ((empty limit).servings requests).filter fun s => !s.request.stagesFor client :=
  servings_filter requests harmless ⟨rfl, fun _ _ => rfl, rfl⟩ (fun _ => rfl)
    (fun ⟨_, _, dirty⟩ => nomatch dirty) abandons

/-- A client that rolls back and then goes does not keep another one from storing its key. -/
theorem rolled_back_key_leaves_no_trace :
    let requests : List Request := [.connect "a", .connect "b",
      .execute "b" "CREATE TABLE t (k INTEGER PRIMARY KEY)",
      .executeWith "a" "INSERT INTO t (k) VALUES (?)" [.integer 1],
      .executeWith "b" "INSERT INTO t (k) VALUES (?)" [.integer 1],
      .commit "b", .rollback "a", .commit "a",
      .executeWith "a" "INSERT INTO t (k) VALUES (?)" [.integer 2], .close "a", .columns "b" "t"]
    (empty 2).servings (requests.filter fun r => !r.stagesFor "a") =
      ((empty 2).servings requests).filter fun s => !s.request.stagesFor "a" :=
  abandoned_rows_leave_no_trace 2 "a" _ (by simp) (by decide +kernel)

end Pool
end RecordSink
