import RecordSink.Proofs.Results
import RecordSink.Store.Basic

/-! Operations of a store, taken apart. Each of them talks on connections of its own, one after the
other: a connection is closed before the next one is taken, whatever came of the talk on it. -/
namespace RecordSink

/-- Talk on one connection: requests that a connection serves, one after the other. None of them
takes another connection. -/
inductive Dialogue.Talk : {α : Type} → Dialogue α → Prop where
  | pure (a : α) : Talk (pure a)
  | bind {d : Dialogue α} {f : α → Dialogue β} (first : Talk d) (second : ∀ a, Talk (f a)) :
    Talk (d >>= f)
  | tableExists (name : String) : Talk (tableExists name)
  | columns (name : String) : Talk (columns name)
  | execute (sql : String) : Talk (execute sql)
  | executeWith (sql : String) (parameters : List Value) : Talk (executeWith sql parameters)
  | commit : Talk commit
  | rollback : Talk rollback
  | alter (context : String) (s : Sql.Statement) : Talk (alter context s)

/-- The request as one that always ends in an answer: its result. -/
def Action.tried (a : Action α) : Action (Except Failure α) := fun db =>
  .ok (a.attempt db).1 (a.attempt db).2

theorem Action.tried_bind_apply {α β : Type} (a : Action α) (f : Except Failure α → Action β) (db : Database) :
    (tried a >>= f) db = f (a.attempt db).1 (a.attempt db).2 := by
  rw [bind_apply, tried]

/-- The tables as they are, as a request. -/
def Action.tables : Action Catalog := fun db =>
  .ok db.tables db

/-- A request that takes connections one after the other: no talk takes place on two of them at
once. -/
inductive Action.Serial : {α : Type} → Action α → Prop where
  | pure (a : α) : Serial (pure a)
  | bind {a : Action α} {f : α → Action β} (first : Serial a) (second : ∀ x, Serial (f x)) :
    Serial (a >>= f)
  /-- It is stopped by a mistake of the caller, or goes on. -/
  | checked (r : Except Precondition α) : Serial (ofExcept .precondition r)
  /-- It takes a connection, talks on it and closes it. -/
  | onConnection {d : Dialogue α} (talk : d.Talk) : Serial (onConnection d)
  /-- It goes on whatever comes of it. -/
  | tried {a : Action α} (serial : Serial a) : Serial (tried a)
  /-- It looks at the tables, and takes no connection for that. -/
  | tables : Serial tables

/-! ## On a connection -/

namespace Dialogue

theorem talk_ensureTable (table : String) : Talk (ensureTable table) := by
  refine (Talk.tableExists table).bind fun there => ?_
  cases there with
  | true => exact .pure false
  | false => exact (Talk.alter _ _).bind fun _ => .pure true

theorem talk_ensureColumn (typing : Typing) (table : String) (live : List (String × ColumnType))
    (column : String) (value : Value) : Talk (ensureColumn typing table live column value) := by
  have add : Talk (addColumn table column (typing value.kind)) := .alter _ _
  unfold ensureColumn
  cases live.lookup column with
  | none => exact add.bind fun _ => .pure _
  | some current =>
    dsimp only
    split
    · exact .pure _
    · exact (Talk.alter _ _).bind fun _ => add.bind fun _ => .pure _

theorem talk_ensureEach (typing : Typing) (table : String) (live : List (String × ColumnType))
    (columns : NamedValues) : Talk (ensureEach typing table live columns) := by
  induction columns with
  | nil => exact .pure _
  | cons entry rest ih =>
    exact (talk_ensureColumn typing table live entry.1 entry.2).bind fun _ =>
      ih.bind fun _ => .pure _

end Dialogue

/-! ## On connections of their own -/

namespace Action

theorem serial_insertRecord (naming : Naming) (table : String) (r : Record) (timestamp : Int64) :
    Serial (insertRecord naming table r timestamp) :=
  (Serial.checked _).bind fun _ => .onConnection <|
    (Dialogue.Talk.executeWith _ _).bind fun _ => .commit

theorem serial_ensureTable (table : String) : Serial (ensureTable table) :=
  .onConnection (Dialogue.talk_ensureTable table)

theorem serial_ensureColumns (naming : Naming) (typing : Typing) (table : String) (r : Record) :
    Serial (ensureColumns naming typing table r) :=
  (Serial.checked _).bind fun columns => .onConnection <|
    (Dialogue.Talk.columns table).bind fun live =>
      Dialogue.talk_ensureEach typing table live columns

theorem serial_reconcile (naming : Naming) (typing : Typing) (table : String) (r : Record) :
    Serial (reconcile naming typing table r) :=
  (serial_ensureTable table).bind fun _ =>
    (serial_ensureColumns naming typing table r).bind fun _ => .pure _

theorem serial_trim (table : String) (keep : UInt64) : Serial (trim table keep) := by
  refine .onConnection ((Dialogue.Talk.tableExists table).bind fun there => ?_)
  cases there with
  | false => exact .pure _
  | true =>
    simp only [if_true]
    split
    · exact (Dialogue.Talk.execute _).bind fun _ => .pure _
    · exact (Dialogue.Talk.execute _).bind fun _ => .pure _

end Action

/-! ## Writing and delivering -/

namespace Site

/-- A step on a site, as a request to its database that answers with the clock too. -/
def request (step : Site → α × Site) (clock : Clock) : Action (α × Clock) := fun db =>
  .ok ((step ⟨clock, db⟩).1, (step ⟨clock, db⟩).2.clock) (step ⟨clock, db⟩).2.database

variable {m : Mapping} {o : Options} {table : String} {r : Record}

theorem request_tryWrite_zero (n : Nat) (clock : Clock) :
    request (tryWrite m table r n 0) clock =
      Action.tried (Action.insertRecord m.naming table r clock.next) >>= fun
        | .ok () => pure (.stored n, clock.advance)
        | .error e => pure (.abandoned n e, clock.advance) := by
  funext db
  simp only [request, tryWrite, Action.tried_bind_apply]
  rcases (Action.insertRecord m.naming table r clock.next).attempt db with ⟨e | u, after⟩ <;> rfl

theorem request_tryWrite_succ (n retries : Nat) (clock : Clock) :
    request (tryWrite m table r n (retries + 1)) clock =
      Action.tried (Action.insertRecord m.naming table r clock.next) >>= fun
        | .ok () => pure (.stored n, clock.advance)
        | .error e =>
          if e.category = .precondition then pure (.abandoned n e, clock.advance)
          else Action.tried (Action.reconcile m.naming m.typing table r) >>= fun
            | .error e => pure (.abandoned n e, clock.advance)
            | .ok _ => request (tryWrite m table r (n + 1) retries) clock.advance := by
  funext db
  simp only [request, tryWrite, Action.tried_bind_apply]
  rcases (Action.insertRecord m.naming table r clock.next).attempt db with ⟨e | u, middle⟩
  · by_cases final : e.category = .precondition
    · simp only [if_pos final]
      rfl
    · simp only [if_neg final, Action.tried_bind_apply]
      rcases (Action.reconcile m.naming m.typing table r).attempt middle with ⟨e' | changes, after⟩ <;>
        rfl
  · rfl

theorem serial_tryWrite (n retries : Nat) (clock : Clock) :
    (request (tryWrite m table r n retries) clock).Serial := by
  induction retries generalizing n clock with
  | zero =>
    rw [request_tryWrite_zero]
    refine (Action.serial_insertRecord m.naming table r clock.next).tried.bind fun result => ?_
    rcases result with e | u <;> exact .pure _
  | succ retries ih =>
    rw [request_tryWrite_succ]
    refine (Action.serial_insertRecord m.naming table r clock.next).tried.bind fun result => ?_
    rcases result with e | u
    · dsimp only
      split
      · exact .pure _
      · refine (Action.serial_reconcile m.naming m.typing table r).tried.bind fun result => ?_
        rcases result with e' | changes
        · exact .pure _
        · exact ih ..
    · exact .pure _

theorem serial_write (r : Record) (clock : Clock) : (request (write m o r) clock).Serial := by
  cases target : o.table m.naming with
  | error p =>
    have same : request (write m o r) clock =
        pure (.abandoned 0 (.of (.precondition p)), clock) := by
      funext db
      simp only [request, write, target]
      rfl
    rw [same]
    exact .pure _
  | ok table =>
    have same : write m o r = tryWrite m table r 1 maxRetries := by
      funext s
      simp only [write, target]
    rw [same]
    exact serial_tryWrite 1 maxRetries clock

theorem request_writeAll_cons (rest : List Record) (clock : Clock) :
    request (writeAll m o (r :: rest)) clock =
      request (write m o r) clock >>= fun first =>
        request (writeAll m o rest) first.2 >>= fun others =>
          pure (first.1 :: others.1, others.2) := by
  funext db
  simp only [bind_apply, request, writeAll]
  rcases write m o r ⟨clock, db⟩ with ⟨outcome, s⟩
  rfl

theorem serial_writeAll (records : List Record) (clock : Clock) :
    (request (writeAll m o records) clock).Serial := by
  induction records generalizing clock with
  | nil => exact .pure ([], clock)
  | cons r rest ih =>
    rw [request_writeAll_cons]
    exact (serial_write r clock).bind fun first => (ih first.2).bind fun _ => .pure _

end Site

namespace Store

variable {σ : Type}

/-- Delivering a batch, as a request to the database. -/
def delivering (s : Store σ) (batch : List Record) : Action (Report × Store σ) := fun db =>
  .ok ((s.deliver batch db).1, (s.deliver batch db).2.1) (s.deliver batch db).2.2

theorem delivering_eq (s : Store σ) (batch : List Record) : s.delivering batch =
    Site.request (Site.writeAll s.mapping s.options batch) s.clock >>= fun done =>
      Action.tables >>= fun tables =>
        pure (report done.1,
          { s with clock := done.2, downstream := forward s.emit batch tables s.downstream }) := by
  funext db
  simp only [bind_apply, Site.request, Action.tables, delivering, deliver]
  rfl

theorem serial_delivering (s : Store σ) (batch : List Record) : (s.delivering batch).Serial := by
  rw [delivering_eq]
  refine (Site.serial_writeAll batch s.clock).bind fun _ => ?_
  exact Action.Serial.tables.bind fun _ => .pure _

end Store
end RecordSink
