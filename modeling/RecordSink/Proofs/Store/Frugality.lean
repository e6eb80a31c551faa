import RecordSink.Proofs.Store.Causes
import RecordSink.Proofs.Store.Laws
import RecordSink.Proofs.Store.Writes

/-! Operations of a store and connections. An operation takes one connection at a time and gives it
back, whatever comes of it. So one free connection is all that it needs, and how many more there are
makes no difference to what it does. -/
namespace RecordSink

/-- The database with these connections: how many are open, and how many may be. -/
def Database.withAccounts (db : Database) (openCount limit : Nat) : Database :=
  { db with openCount := openCount, limit := limit }

/-- The same database, seen from one connection. -/
def Link.withAccounts (link : Link) (openCount limit : Nat) : Link :=
  { link with database := link.database.withAccounts openCount limit }

/-- The failure is that no connection is free. -/
def Failure.Starved (e : Failure) : Prop :=
  ∃ limit, e.cause = .noConnection limit

/-- As many connections are open as before, and as many may be. -/
theorem Database.law_accounts :
    Law fun a b => b.openCount = a.openCount ∧ b.limit = a.limit where
  refl := fun _ => ⟨rfl, rfl⟩
  trans := fun first second => ⟨second.1.trans first.1, second.2.trans first.2⟩
  faults := fun _ _ => ⟨rfl, rfl⟩
  applied := fun _ _ => ⟨rfl, rfl⟩
  committed := fun _ => ⟨rfl, rfl⟩
  connected := fun talk => ⟨Nat.sub_eq_of_eq_add talk.1, talk.2⟩

/-! ## On a connection -/

namespace Dialogue

variable {α : Type} {d : Dialogue α}

section Commutes

variable (openCount limit : Nat)

theorem commutes_execute (sql : String) :
    Commutes (·.withAccounts openCount limit) (execute sql) := by
  intro link
  simp only [execute_eq, Link.withAccounts, Database.withAccounts]
  cases link.database.faults.strike? (Sql.verb sql) with
  | some rest => rfl
  | none =>
    cases (Sql.parse sql).mapError .statement >>= link.database.tables.apply <;> rfl

theorem commutes_executeWith (sql : String) (parameters : List Value) :
    Commutes (·.withAccounts openCount limit) (executeWith sql parameters) := by
  intro link
  simp only [executeWith_eq, Link.withAccounts, Database.withAccounts]
  cases link.database.faults.strike? (Sql.verb sql) with
  | some rest => rfl
  | none =>
    cases rowToStage sql parameters with
    | error cause => rfl
    | ok s =>
      dsimp only
      cases link.database.tables.checkStaging link.staged s <;> rfl

theorem commutes_commit : Commutes (·.withAccounts openCount limit) commit := by
  intro link
  simp only [commit_eq, Link.withAccounts, Database.withAccounts]
  cases link.database.faults.strike? "COMMIT" with
  | some rest => rfl
  | none =>
    dsimp only
    cases link.database.tables.commit link.staged <;> rfl

/-- Talk takes no notice of how many connections are open and may be. -/
theorem Talk.commutes (talk : Talk d) : Commutes (·.withAccounts openCount limit) d := by
  induction talk with
  | pure a => exact fun _ => rfl
  | bind first second ih₁ ih₂ => exact ih₁.bind ih₂
  | tableExists name =>
    intro link
    simp only [tableExists_eq, Link.withAccounts, Database.withAccounts]
    cases link.database.faults.strike? "METADATA" <;> rfl
  | columns name =>
    intro link
    simp only [columns_eq, Link.withAccounts, Database.withAccounts]
    cases link.database.faults.strike? "METADATA" <;> rfl
  | execute sql => exact commutes_execute openCount limit sql
  | executeWith sql parameters => exact commutes_executeWith openCount limit sql parameters
  | commit => exact commutes_commit openCount limit
  | rollback => exact fun _ => rfl
  | alter context s =>
    intro link
    have ran := commutes_execute openCount limit s.text link
    dsimp only at ran
    unfold Dialogue.alter
    simp only [ran]
    cases Dialogue.execute s.text link <;> rfl

end Commutes

/-- On a connection nothing fails for want of one. -/
theorem Talk.unstarved (talk : Talk d) {link after : Link} {e : Failure}
    (failed : d link = .error e after) : ¬ e.Starved := by
  rintro ⟨limit, starved⟩
  exact (talk.cause failed).connected limit starved

end Dialogue

/-! ## On connections of their own -/

namespace Action

variable {α : Type} {a : Action α} {db : Database}

/-- However it ends, as many connections are open as before, and as many may be. -/
theorem Serial.returned (serial : Serial a) (db : Database) :
    (reached (a db)).openCount = db.openCount ∧ (reached (a db)).limit = db.limit :=
  serial.obeys Database.law_accounts db

theorem Serial.free (serial : Serial a) (free : db.openCount < db.limit) :
    (reached (a db)).openCount < (reached (a db)).limit := by
  obtain ⟨count, limit⟩ := serial.returned db
  rwa [count, limit]

theorem Serial.free_of_attempt (serial : Serial a) (free : db.openCount < db.limit)
    {result : Except Failure α} {after : Database} (done : a.attempt db = (result, after)) :
    after.openCount < after.limit := by
  obtain ⟨count, limit⟩ := (serial.obeys Database.law_accounts).attempt done
  rwa [count, limit]

/-- If a connection is free, only a fault is in the way of a talk. -/
theorem onConnection_free (free : db.openCount < db.limit) (d : Dialogue α) :
    onConnection d db =
      match db.faults.strike? "CONNECT" with
      | some rest => .error (.of (.injected "CONNECT")) (db.withFaults rest)
      | none => closed (d ⟨opened db, []⟩) := by
  rw [onConnection_eq, connect_eq]
  cases db.faults.strike? "CONNECT" with
  | some rest => rfl
  | none =>
    simp only [if_pos free]
    rfl

/-- If one connection is free, it does not fail for want of one. -/
theorem Serial.unstarved (serial : Serial a) (free : db.openCount < db.limit) {e : Failure}
    {after : Database} (failed : a db = .error e after) : ¬ e.Starved := by
  induction serial generalizing db with
  | pure a => cases failed
  | @bind α β a f first second ih₁ ih₂ =>
    have still := first.free free
    rw [bind_apply] at failed
    cases ran : a db with
    | error e' after' =>
      rw [ran] at failed
      cases failed
      exact ih₁ free ran
    | ok x after' =>
      rw [ran] at failed still
      exact ih₂ x still failed
  | checked r =>
    cases r <;> cases failed
    exact nofun
  | @onConnection α d talk =>
    rw [onConnection_free free] at failed
    split at failed
    · cases failed
      exact nofun
    · cases talked : d ⟨opened db, []⟩ with
      | error e' link =>
        rw [talked] at failed
        cases failed
        exact talk.unstarved talked
      | ok x link =>
        rw [talked] at failed
        cases failed
  | tried serial ih => cases failed
  | tables => cases failed

/-- Taking a connection while another one is held is not serial: one that is free is not enough. -/
theorem not_serial_nested (d : Dialogue α) :
    ¬ Serial (onConnection (Dialogue.ofAction (onConnection d))) := by
  intro serial
  have starves : onConnection (Dialogue.ofAction (onConnection d)) (.empty 1) =
      .error (.of (.noConnection 1)) (.empty 1) := rfl
  exact serial.unstarved (by decide) starves ⟨1, rfl⟩

/-- If one connection is free, it makes no difference how many are open and how many may be. -/
theorem Serial.indifferent (serial : Serial a) (free : db.openCount < db.limit)
    {openCount limit : Nat} (room : openCount < limit) :
    a (db.withAccounts openCount limit) = mapState (·.withAccounts openCount limit) (a db) := by
  induction serial generalizing db with
  | pure a => rfl
  | @bind α β a f first second ih₁ ih₂ =>
    have still := first.free free
    rw [bind_apply, bind_apply, ih₁ free]
    cases ran : a db with
    | error e after => rfl
    | ok x after =>
      rw [ran] at still
      exact ih₂ x still
  | checked r => cases r <;> rfl
  | @onConnection α d talk =>
    have faults : (db.withAccounts openCount limit).faults = db.faults := rfl
    have talked : d ⟨opened (db.withAccounts openCount limit), []⟩ =
        mapState (·.withAccounts (openCount + 1) limit) (d ⟨opened db, []⟩) :=
      talk.commutes (openCount + 1) limit ⟨opened db, []⟩
    rw [onConnection_free room, onConnection_free free, faults, talked]
    cases db.faults.strike? "CONNECT" with
    | some rest => rfl
    | none => cases d ⟨opened db, []⟩ <;> rfl
  | @tried α a serial ih =>
    have same := ih free
    unfold Action.tried attempt
    rw [same]
    cases a db <;> rfl
  | tables => rfl

end Action

/-! ## Operations of a store -/

namespace Site

variable {m : Mapping} {o : Options} {table : String} {r : Record} {s after : Site}
variable {failures : List Failure} {outcome : Outcome} {n left : Nat}

/-- No record is given up for want of a connection if one is free. -/
theorem Attempts.unstarved (attempts : Attempts m table r n left s failures outcome after)
    (free : s.database.openCount < s.database.limit) {k : Nat} {why : Failure}
    (given_up : outcome = .abandoned k why) : ¬ why.Starved := by
  have insert := fun timestamp => Action.serial_insertRecord m.naming table r timestamp
  have reconcile := Action.serial_reconcile m.naming m.typing table r
  induction attempts with
  | stored inserted => cases given_up
  | givenUp failed =>
    cases given_up
    exact (insert _).unstarved free (Action.attempt_error_iff.1 failed)
  | unreconciled failed refused =>
    cases given_up
    have still := (insert _).free_of_attempt free failed
    exact reconcile.unstarved still (Action.attempt_error_iff.1 refused)
  | again failed reconciled rest ih =>
    have still := (insert _).free_of_attempt free failed
    exact ih (reconcile.free_of_attempt still reconciled) given_up

theorem write_unstarved (free : s.database.openCount < s.database.limit) {k : Nat} {why : Failure}
    (given_up : (write m o r s).1 = .abandoned k why) : ¬ why.Starved := by
  unfold write at given_up
  split at given_up
  · cases given_up
    exact nofun
  · exact (attempts_tryWrite 1 maxRetries s).unstarved free given_up

theorem writeAll_unstarved (records : List Record)
    (free : s.database.openCount < s.database.limit) {k : Nat} {why : Failure}
    (given_up : .abandoned k why ∈ (writeAll m o records s).1) : ¬ why.Starved := by
  induction records generalizing s with
  | nil => cases given_up
  | cons r rest ih =>
    rw [writeAll_cons] at given_up
    rcases List.mem_cons.1 given_up with first | later
    · exact write_unstarved free first.symm
    · exact ih ((serial_write r s.clock).free free) later

end Site

/-- An operation of a store on its database. -/
inductive Operation (σ : Type) where
  | insert (table : String) (r : Record) (timestamp : Int64)
  | ensureTable (table : String)
  | ensureColumns (table : String) (r : Record)
  | reconcile (table : String) (r : Record)
  | write (o : Options) (r : Record) (clock : Clock)
  | trim (table : String) (keep : UInt64)
  | deliver (s : Store σ) (batch : List Record)

namespace Operation

variable {σ : Type}

/-- What an operation answers, unless it fails. -/
def Answer : Operation σ → Type
  | insert .. => Unit
  | ensureTable .. => Bool
  | ensureColumns .. => List SchemaChange
  | reconcile .. => List SchemaChange
  | write .. => Outcome × Clock
  | trim .. => Trimming
  | deliver .. => Report × Store σ

/-- An operation as a request to the database. -/
def action (m : Mapping) : (op : Operation σ) → Action op.Answer
  | insert table r timestamp => Action.insertRecord m.naming table r timestamp
  | ensureTable table => Action.ensureTable table
  | ensureColumns table r => Action.ensureColumns m.naming m.typing table r
  | reconcile table r => Action.reconcile m.naming m.typing table r
  | write o r clock => Site.request (Site.write m o r) clock
  | trim table keep => Action.trim table keep
  | deliver s batch => s.delivering batch

/-- Whether a failure comes of an operation: it fails with it, or gives up a record for it. -/
def Reports (m : Mapping) (db : Database) (e : Failure) : Operation σ → Prop
  | write o r clock => ∃ n, (Site.write m o r ⟨clock, db⟩).1 = .abandoned n e
  | deliver s batch =>
    ∃ n, .abandoned n e ∈ (Site.writeAll s.mapping s.options batch ⟨s.clock, db⟩).1
  | op => ∃ after, op.action m db = .error e after

theorem serial_action (m : Mapping) (op : Operation σ) : (op.action m).Serial := by
  cases op with
  | insert table r timestamp => exact Action.serial_insertRecord m.naming table r timestamp
  | ensureTable table => exact Action.serial_ensureTable table
  | ensureColumns table r => exact Action.serial_ensureColumns m.naming m.typing table r
  | reconcile table r => exact Action.serial_reconcile m.naming m.typing table r
  | write o r clock => exact Site.serial_write r clock
  | trim table keep => exact Action.serial_trim table keep
  | deliver s batch => exact s.serial_delivering batch

/-- What an operation does with connections. -/
structure Frugal (m : Mapping) (op : Operation σ) : Prop where
  /-- It takes them one after the other. -/
  serial : (op.action m).Serial
  /-- However it ends, as many are open as before, and as many may be. -/
  returned : ∀ db, (reached (op.action m db)).openCount = db.openCount ∧
    (reached (op.action m db)).limit = db.limit
  /-- If one is free, nothing that it does fails for want of one. -/
  served : ∀ db, db.openCount < db.limit → ∀ e, op.Reports m db e → ¬ e.Starved
  /-- If one is free, be it the last one, it makes no difference to what it does how many are open
  and how many may be. -/
  indifferent : ∀ db openCount limit, db.openCount < db.limit → openCount < limit →
    op.action m (db.withAccounts openCount limit) =
      mapState (·.withAccounts openCount limit) (op.action m db)

theorem frugal (m : Mapping) (op : Operation σ) : op.Frugal m where
  serial := op.serial_action m
  returned := (op.serial_action m).returned
  served := by
    intro db free e reports
    have serial := op.serial_action m
    cases op with
    | write o r clock =>
      obtain ⟨n, given_up⟩ := reports
      exact Site.write_unstarved free given_up
    | deliver s batch =>
      obtain ⟨n, given_up⟩ := reports
      exact Site.writeAll_unstarved batch free given_up
    | insert table r timestamp =>
      obtain ⟨after, failed⟩ := reports
      exact serial.unstarved free failed
    | ensureTable table =>
      obtain ⟨after, failed⟩ := reports
      exact serial.unstarved free failed
    | ensureColumns table r =>
      obtain ⟨after, failed⟩ := reports
      exact serial.unstarved free failed
    | reconcile table r =>
      obtain ⟨after, failed⟩ := reports
      exact serial.unstarved free failed
    | trim table keep =>
      obtain ⟨after, failed⟩ := reports
      exact serial.unstarved free failed
  indifferent := fun _ _ _ free room => (op.serial_action m).indifferent free room

end Operation
end RecordSink
