import RecordSink.Proofs.Database.Requests
import RecordSink.Proofs.Store.Serial

/-! What operations fail of. Talk on a connection fails of a fault, or because a statement cannot be
read, or fits neither its parameters nor the tables. That the caller was mistaken, or that no
connection is free, is found out before anything is said. -/
namespace RecordSink

/-- The causes that arise on a connection. -/
inductive Cause.OfTalk : Cause → Prop where
  | injected (verb : String) : OfTalk (.injected verb)
  | statement (e : Sql.SyntaxError) : OfTalk (.statement e)
  | placeholderCount (columns placeholders : Nat) : OfTalk (.placeholderCount columns placeholders)
  | parameterCount (placeholders parameters : Nat) :
    OfTalk (.parameterCount placeholders parameters)
  | mismatch (m : Mismatch) : OfTalk (.mismatch m)
  | insertWithoutParameters : OfTalk .insertWithoutParameters
  | parametersWithoutInsert : OfTalk .parametersWithoutInsert

theorem Cause.OfTalk.category_ne {cause : Cause} (ofTalk : cause.OfTalk) :
    cause.category ≠ .precondition := by
  cases ofTalk <;> nofun

theorem Cause.OfTalk.connected {cause : Cause} (ofTalk : cause.OfTalk) (limit : Nat) :
    cause ≠ .noConnection limit := by
  rintro rfl
  cases ofTalk

/-! ## On a connection -/

private theorem ofTalk_of_map {ε : Type} {x : Except Mismatch ε} {f : ε → Nat × Catalog}
    {cause : Cause} (refused : (x.mapError .mismatch).map f = .error cause) : cause.OfTalk := by
  cases x <;> cases refused
  exact .mismatch _

theorem Catalog.ofTalk_of_apply {c : Catalog} {s : Sql.Statement} {cause : Cause}
    (refused : c.apply s = .error cause) : cause.OfTalk := by
  cases s with
  | createTable name ifNotExists columns => exact ofTalk_of_map refused
  | addColumn name column => exact ofTalk_of_map refused
  | dropColumn name column => exact ofTalk_of_map refused
  | delete name limit =>
    rw [apply] at refused
    cases done : c.deleteRows name limit <;> rw [done] at refused <;> cases refused
    exact .mismatch _
  | truncate name =>
    rw [apply] at refused
    cases done : c.deleteRows name none <;> rw [done] at refused <;> cases refused
    exact .mismatch _
  | insert table columns placeholders =>
    cases refused
    exact .insertWithoutParameters

namespace Dialogue

variable {α : Type} {d : Dialogue α} {link after : Link} {e : Failure}

theorem ofTalk_rowToStage {sql : String} {parameters : List Value} {cause : Cause}
    (refused : rowToStage sql parameters = .error cause) : cause.OfTalk := by
  unfold rowToStage at refused
  cases read : Sql.parse sql with
  | error e =>
    rw [read] at refused
    cases refused
    exact .statement e
  | ok s =>
    simp only [read, Except.mapError, ok_bind] at refused
    split at refused
    · split at refused
      · cases refused
        exact .placeholderCount _ _
      · simp only [pure_ok] at refused
        split at refused <;> cases refused
        exact .parameterCount _ _
    · cases refused
      exact .parametersWithoutInsert

theorem ofTalk_execute (sql : String) (failed : execute sql link = .error e after) :
    e.cause.OfTalk := by
  rw [execute_eq] at failed
  split at failed
  · cases failed
    exact .injected _
  · split at failed
    · next refused =>
      cases failed
      cases read : Sql.parse sql with
      | error e =>
        rw [read] at refused
        cases refused
        exact .statement e
      | ok s =>
        rw [read] at refused
        exact Catalog.ofTalk_of_apply refused
    · cases failed

theorem ofTalk_executeWith (sql : String) (parameters : List Value)
    (failed : executeWith sql parameters link = .error e after) : e.cause.OfTalk := by
  rw [executeWith_eq] at failed
  split at failed
  · cases failed
    exact .injected _
  · split at failed
    · next refused =>
      cases failed
      exact ofTalk_rowToStage refused
    · split at failed <;> cases failed
      exact .mismatch _

theorem ofTalk_commit (failed : commit link = .error e after) : e.cause.OfTalk := by
  rw [commit_eq] at failed
  split at failed
  · cases failed
    exact .injected _
  · split at failed <;> cases failed
    exact .mismatch _

/-- Talk fails of nothing else. -/
theorem Talk.cause (talk : Talk d) (failed : d link = .error e after) : e.cause.OfTalk := by
  induction talk generalizing link with
  | pure a => cases failed
  | @bind α β d f first second ih₁ ih₂ =>
    rw [bind_apply] at failed
    cases ran : d link with
    | error e' after' =>
      rw [ran] at failed
      cases failed
      exact ih₁ ran
    | ok a after' =>
      rw [ran] at failed
      exact ih₂ a failed
  | tableExists name =>
    rw [tableExists_eq] at failed
    split at failed <;> cases failed
    exact .injected _
  | columns name =>
    rw [columns_eq] at failed
    split at failed <;> cases failed
    exact .injected _
  | execute sql => exact ofTalk_execute sql failed
  | executeWith sql parameters => exact ofTalk_executeWith sql parameters failed
  | commit => exact ofTalk_commit failed
  | rollback => cases failed
  | alter context s =>
    -- A context is put around the failure and leaves its cause.
    unfold Dialogue.alter at failed
    cases ran : Dialogue.execute s.text link with
    | error e' after' =>
      have inner : e'.cause.OfTalk := ofTalk_execute s.text ran
      rw [ran] at failed
      cases failed
      exact inner
    | ok n after' =>
      rw [ran] at failed
      cases failed

end Dialogue

/-! ## On connections of their own -/

namespace Action

variable {α β : Type}

/-- A request that never fails of a mistake of the caller. -/
def Blameless (a : Action α) : Prop :=
  ∀ ⦃db e after⦄, a db = .error e after → e.category ≠ .precondition

theorem blameless_pure (x : α) : Blameless (pure x) :=
  nofun

theorem Blameless.bind {a : Action α} {f : α → Action β} (first : a.Blameless)
    (second : ∀ x, (f x).Blameless) : (a >>= f).Blameless := by
  intro db e after failed
  rw [bind_apply] at failed
  cases ran : a db with
  | error e' after' =>
    rw [ran] at failed
    cases failed
    exact first ran
  | ok x after' =>
    rw [ran] at failed
    exact second x failed

theorem blameless_connect : Blameless connect := by
  intro db e after failed
  rw [connect_eq] at failed
  split at failed
  · cases failed
    nofun
  · split at failed <;> cases failed
    nofun

theorem blameless_onConnection {d : Dialogue α} (talk : d.Talk) : Blameless (onConnection d) := by
  intro db e after failed
  rw [onConnection_eq] at failed
  cases taken : connect db with
  | error e' after' =>
    rw [taken] at failed
    cases failed
    exact blameless_connect taken
  | ok u opened =>
    rw [taken] at failed
    cases said : d ⟨opened, []⟩ with
    | error e' link =>
      simp only [said] at failed
      cases failed
      exact (talk.cause said).category_ne
    | ok x link =>
      simp only [said] at failed
      cases failed

end Action
end RecordSink
