import RecordSink.Sql.Statement
import RecordSink.Sql.Token
import RecordSink.Value.Shown
/-!
Failures of storage. A failure is a cause and the contexts it passed through; its category, which
decides whether a write is tried again, depends on the cause alone.
-/
namespace RecordSink

/-- The broad classes of failures. -/
inductive Category where
  /-- A configuration that cannot work. -/
  | config
  /-- A database that cannot be reached or did not answer. -/
  | io
  /-- A table whose shape does not fit. -/
  | schema
  /-- Data that cannot be read. -/
  | format
  /-- A caller that broke its side of the contract. -/
  | precondition
  /-- A request that makes no sense. -/
  | logic
  deriving DecidableEq, Repr

namespace Category

/-- Every category. -/
def all : List Category :=
  [config, io, schema, format, precondition, logic]

/-- The name of a category, as it is written in messages. -/
def name : Category → String
  | config => "config"
  | io => "io"
  | schema => "schema"
  | format => "format"
  | precondition => "precondition"
  | logic => "logic"

/-- The category with this name. -/
def ofName? (s : String) : Option Category :=
  all.find? fun c => c.name == s

theorem ofName?_name (c : Category) : ofName? c.name = some c := by
  cases c <;> decide

end Category

/-- What a caller did wrong. -/
inductive Precondition where
  | repeatedField (name : String)
  | fieldNamedAsKey (field : String)
  | sharedColumn (field column : String)
  | blankTable
  deriving DecidableEq, Repr

/-- The mistake in words. -/
def Precondition.message : Precondition → String
  | repeatedField name => "duplicate field '" ++ name ++ "' in record"
  | fieldNamedAsKey field => "field '" ++ field ++ "' collides with the TIMESTAMP key column"
  | sharedColumn field column =>
    "field '" ++ field ++ "' maps to column '" ++ column ++ "' used by another field"
  | blankTable => "table name must not be empty"

/-- How a statement does not fit the tables. -/
inductive Mismatch where
  | repeatedColumn (name : String)
  | severalKeys
  | tableExists (table : String)
  | noTable (table : String)
  | columnExists (name : String)
  | keyAdded
  | requiredAdded (name : String)
  | noColumn (name : String)
  | keyDropped (name : String)
  | columnTwice (name : String)
  | wrongKind (column : String) (type : ColumnType) (kind : Kind)
  | emptyCell (column : String)
  | repeatedKey (key : Value) (table : String)
  deriving DecidableEq, Repr

/-- The mismatch in words. -/
def Mismatch.message : Mismatch → String
  | repeatedColumn name => "duplicate column '" ++ name ++ "'"
  | severalKeys => "multiple primary keys"
  | tableExists table => "table '" ++ table ++ "' already exists"
  | noTable table => "table not found: " ++ table
  | columnExists name => "column '" ++ name ++ "' already exists"
  | keyAdded => "cannot add a primary key column"
  | requiredAdded name => "cannot add NOT NULL column '" ++ name ++ "' to a non-empty table"
  | noColumn name => "no such column: " ++ name
  | keyDropped name => "cannot drop primary key column '" ++ name ++ "'"
  | columnTwice name => "column '" ++ name ++ "' specified more than once"
  | wrongKind column type kind =>
    "type mismatch for column '" ++ column ++ "': column is " ++ type.text ++ ", value is " ++
      kind.name
  | emptyCell column => "NULL not allowed for column '" ++ column ++ "'"
  | repeatedKey key table =>
    "duplicate primary key " ++ key.shown ++ " in table '" ++ table ++ "'"

/-- What a failure comes from. -/
inductive Cause where
  /-- A mistake of the caller. -/
  | precondition (p : Precondition)
  /-- A text that is not a statement. -/
  | statement (e : Sql.SyntaxError)
  /-- As many placeholders as columns are needed. -/
  | placeholderCount (columns placeholders : Nat)
  /-- As many parameters as placeholders are needed. -/
  | parameterCount (placeholders parameters : Nat)
  /-- A statement that does not fit the tables. -/
  | mismatch (m : Mismatch)
  /-- Rows are inserted with parameters only. -/
  | insertWithoutParameters
  /-- Parameters are for inserting rows only. -/
  | parametersWithoutInsert
  /-- All connections are in use. -/
  | noConnection (limit : Nat)
  /-- A failure that was asked for. -/
  | injected (verb : String)
  /-- Database settings that cannot be read. -/
  | malformedSettings
  /-- A database without connections. -/
  | noConnectionsAllowed
  /-- A failure of something outside, in its own words. -/
  | reported (category : Category) (words : String)
  deriving DecidableEq, Repr

namespace Cause

/-- The category of a cause. -/
def category : Cause → Category
  | precondition _ => .precondition
  | statement _ => .format
  | placeholderCount .. => .format
  | parameterCount .. => .format
  | mismatch _ => .schema
  | insertWithoutParameters => .logic
  | parametersWithoutInsert => .logic
  | noConnection _ => .io
  | injected _ => .io
  | malformedSettings => .config
  | noConnectionsAllowed => .config
  | reported category _ => category

/-- The cause in words. -/
def message : Cause → String
  | precondition p => p.message
  | statement e => e.message
  | placeholderCount columns placeholders =>
    natText columns ++ " columns but " ++ natText placeholders ++ " placeholders"
  | parameterCount placeholders parameters =>
    natText placeholders ++ " placeholders but " ++ natText parameters ++ " parameters bound"
  | mismatch m => m.message
  | insertWithoutParameters => "INSERT requires parameters (use execute_with)"
  | parametersWithoutInsert => "only INSERT accepts parameters"
  | noConnection limit => "no connection available (" ++ natText limit ++ " open)"
  | injected verb => "injected " ++ verb ++ " failure"
  | malformedSettings => "memory database config"
  | noConnectionsAllowed => "max_connections must be at least 1"
  | reported _ words => words

end Cause

/-- A failure: its cause, and what was being done, innermost first. -/
structure Failure where
  /-- What went wrong. -/
  cause : Cause
  /-- What was being done. -/
  contexts : List String
  deriving DecidableEq, Repr

namespace Failure

/-- A failure without context. -/
def of (cause : Cause) : Failure :=
  ⟨cause, []⟩

/-- The failure while something larger was being done. -/
def within (context : String) (f : Failure) : Failure :=
  { f with contexts := f.contexts ++ [context] }

/-- The category of a failure. -/
def category (f : Failure) : Category :=
  f.cause.category

/-- The failure in words: the contexts from the outermost, then the cause. -/
def message (f : Failure) : String :=
  f.contexts.foldl (fun text context => context ++ ": " ++ text) f.cause.message

/-- The failure with its category. -/
def display (f : Failure) : String :=
  f.category.name ++ ": " ++ f.message

/-- A context changes neither category nor cause. -/
theorem category_within (context : String) (f : Failure) :
    (f.within context).category = f.category :=
  rfl

theorem message_within (context : String) (f : Failure) :
    (f.within context).message = context ++ ": " ++ f.message := by
  simp [within, message]

end Failure
end RecordSink
