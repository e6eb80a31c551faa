import RecordSink.Proofs.Database.Steps

/-! Runs request by request. What a run shows is each request with its answer and with the database
before and after it; laws about several clients at once are laws about this list. -/
namespace RecordSink

/-- A request that was served. -/
structure Serving where
  /-- The request. -/
  request : Request
  /-- The answer. -/
  answer : Answer
  /-- The database that the request met. -/
  before : Database
  /-- The database that it left. -/
  after : Database
  deriving DecidableEq, Repr

/-- The client whose connection a request is about. -/
def Request.client? : Request → Option String
  | .connect client => some client
  | .close client => some client
  | .execute client _ => some client
  | .executeWith client _ _ => some client
  | .commit client => some client
  | .rollback client => some client
  | .tableExists client _ => some client
  | .columns client _ => some client
  | .inject .. => none

namespace Pool

variable {p : Pool} {client : String} {r : Request}

/-- What is heard of an outcome, and what the connection has come to. -/
def heard (answer : α → Answer) : EStateM.Result Failure Link α → Answer × Link
  | .ok x link => (answer x, link)
  | .error e link => (.failed e, link)

theorem talk_eq (d : Dialogue α) (answer : α → Answer) :
    p.talk client d answer = match p.staged? client with
      | none => (.unknownClient, p)
      | some rows =>
        let (said, link) := heard answer (d ⟨p.database, rows⟩)
        (said, ⟨link.database, p.connections.put client link.staged⟩) := by
  unfold talk
  cases p.staged? client with
  | none => rfl
  | some rows => cases ran : d ⟨p.database, rows⟩ <;> simp only [ran, heard]

/-- A request as the pool serves it. -/
def serving (p : Pool) (r : Request) : Serving :=
  ⟨r, (p.serve r).1, p.database, (p.serve r).2.database⟩

/-- The requests as they are served one after the other. -/
def servings (p : Pool) : List Request → List Serving
  | [] => []
  | r :: rest => p.serving r :: (p.serve r).2.servings rest

theorem servings_cons (rest : List Request) :
    p.servings (r :: rest) = p.serving r :: (p.serve r).2.servings rest :=
  rfl

/-- Whatever is served is served after a part of the run. -/
theorem servings_split {requests : List Request} {front back : List Serving} {s : Serving}
    (split : p.servings requests = front ++ s :: back) : ∃ earlier r later,
      requests = earlier ++ r :: later ∧ front = p.servings earlier ∧
      s = (p.run earlier).2.serving r ∧ back = ((p.run earlier).2.serve r).2.servings later := by
  induction requests generalizing p front with
  | nil => simp [servings] at split
  | cons r rest ih =>
    rw [servings_cons] at split
    cases front with
    | nil =>
      obtain ⟨rfl, rfl⟩ := List.cons.inj split
      exact ⟨[], r, rest, rfl, rfl, rfl, rfl⟩
    | cons first front =>
      obtain ⟨rfl, tail⟩ := List.cons.inj split
      obtain ⟨earlier, s, later, rfl, rfl, served, rest_served⟩ := ih tail
      exact ⟨r :: earlier, s, later, rfl, rfl, served, rest_served⟩

/-! ## One client's connection -/

/-- A request about other connections leaves a connection as it is. -/
theorem staged?_of_other (other : r.client? ≠ some client) :
    (p.serve r).2.staged? client = p.staged? client := by
  have talked : ∀ {α : Type} {c : String} (d : Dialogue α) (answer : α → Answer), c ≠ client →
      (p.talk c d answer).2.staged? client = p.staged? client := by
    intro α c d answer apart
    rw [talk_eq]
    cases p.staged? c with
    | none => rfl
    | some rows => exact (staged?_put _ _).trans (if_neg (Ne.symm apart))
  cases r with
  | connect c =>
    have apart : client ≠ c := fun same => other (congrArg some same.symm)
    change (p.connect c).2.staged? client = _
    unfold connect
    cases Action.connect p.database with
    | error e db => rfl
    | ok u db => exact (staged?_put _ _).trans (if_neg apart)
  | close c =>
    have apart : client ≠ c := fun same => other (congrArg some same.symm)
    change (p.close c).2.staged? client = _
    unfold close
    cases p.staged? c with
    | none => rfl
    | some staged => exact Entries.lookup_remove.trans (if_neg apart)
  | inject => rfl
  | execute c => exact talked _ _ fun same => other (congrArg some same)
  | executeWith c => exact talked _ _ fun same => other (congrArg some same)
  | commit c => exact talked _ _ fun same => other (congrArg some same)
  | rollback c => exact talked _ _ fun same => other (congrArg some same)
  | tableExists c => exact talked _ _ fun same => other (congrArg some same)
  | columns c => exact talked _ _ fun same => other (congrArg some same)

end Pool
end RecordSink
