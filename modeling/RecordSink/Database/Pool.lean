import RecordSink.Database.Connection
/-!
A database with the connections that its clients hold. Requests on the connections arrive one at a
time, in any order; this is the machine over whose runs the laws of the database are stated.
-/
namespace RecordSink

/-- A database and the connections to it, by the name that the client gave each. -/
structure Pool where
  /-- The database. -/
  database : Database
  /-- The connections and the rows that each has staged. -/
  connections : Entries (List StagedRow)
  deriving DecidableEq, Repr

/-- A request. -/
inductive Request where
  /-- Opens a connection under this name; an older one of that name is closed after that. -/
  | connect (client : String)
  /-- Closes the connection. -/
  | close (client : String)
  /-- Runs a statement without parameters. -/
  | execute (client sql : String)
  /-- Runs a statement with parameters. -/
  | executeWith (client sql : String) (parameters : List Value)
  /-- Commits the staged rows. -/
  | commit (client : String)
  /-- Forgets the staged rows. -/
  | rollback (client : String)
  /-- Asks whether a table exists. -/
  | tableExists (client table : String)
  /-- Asks for the columns of a table. -/
  | columns (client table : String)
  /-- Lets the next operations of a verb fail. -/
  | inject (verb : String) (n : Nat)
  deriving DecidableEq, Repr

/-- An answer. -/
inductive Answer where
  | done
  | count (n : Nat)
  | truth (b : Bool)
  | columns (shape : List (String × ColumnType))
  | failed (f : Failure)
  | unknownClient
  deriving DecidableEq, Repr

namespace Pool

/-- An empty database that allows this many connections, none of them open. -/
def empty (limit : Nat) : Pool :=
  ⟨.empty limit, []⟩

/-- The rows that a client has staged, if it holds a connection. -/
def staged? (p : Pool) (client : String) : Option (List StagedRow) :=
  p.connections.lookup client

/-- Whether the client holds a connection, and the pool without it. -/
def close (p : Pool) (client : String) : Bool × Pool :=
  match p.staged? client with
  | none => (false, p)
  | some _ => (true, ⟨p.database.release, p.connections.remove client⟩)

/-- Opens a connection. -/
def connect (p : Pool) (client : String) : Answer × Pool :=
  match Action.connect p.database with
  | .error e db => (.failed e, { p with database := db })
  | .ok () db =>
    let db := if (p.staged? client).isSome then db.release else db
    (.done, ⟨db, p.connections.put client []⟩)

/-- Talks on the connection of a client. -/
def talk (p : Pool) (client : String) (d : Dialogue α) (answer : α → Answer) : Answer × Pool :=
  match p.staged? client with
  | none => (.unknownClient, p)
  | some staged =>
    let after (link : Link) : Pool :=
      ⟨link.database, p.connections.put client link.staged⟩
    match d ⟨p.database, staged⟩ with
    | .ok x link => (answer x, after link)
    | .error e link => (.failed e, after link)

/-- Serves one request. -/
def serve (p : Pool) : Request → Answer × Pool
  | .connect client => p.connect client
  | .close client =>
    let (existed, rest) := p.close client
    (.truth existed, rest)
  | .execute client sql => p.talk client (Dialogue.execute sql) .count
  | .executeWith client sql parameters =>
    p.talk client (Dialogue.executeWith sql parameters) .count
  | .commit client => p.talk client Dialogue.commit fun _ => .done
  | .rollback client => p.talk client Dialogue.rollback fun _ => .done
  | .tableExists client table => p.talk client (Dialogue.tableExists table) .truth
  | .columns client table => p.talk client (Dialogue.columns table) .columns
  | .inject verb n => (.done, { p with database := p.database.inject verb n })

/-- Serves requests in order. -/
def run (p : Pool) : List Request → List Answer × Pool
  | [] => ([], p)
  | r :: rest =>
    let (answer, next) := p.serve r
    let (answers, last) := next.run rest
    (answer :: answers, last)

end Pool
end RecordSink
