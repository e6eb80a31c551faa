import RecordSink.Database.Basic
import RecordSink.Json.Reader
import RecordSink.Text.Blank
/-!
Settings of a database, as JSON text: how many connections may be open at once. The number stands in
an object under its name, or alone in an array; where it is left out, the standard limit holds.
-/
namespace RecordSink.Database

/-- The name of the limit in an object of settings. -/
def limitName : String :=
  "max_connections"

/-- A limit: an integer that 64 bits without sign can hold. -/
def readLimit? (w : Json.Written) : Option Nat := do
  match ← w.int? with
  | .ofNat n => if n < 0x10000000000000000 then some n else none
  | .negSucc _ => none

/-- The limit among named settings. Other settings are ignored, but the limit stands there at most
once. -/
def limitAmong? (named : List (String × Json.Written)) : Option Nat :=
  match named.filter fun m => m.1 == limitName with
  | [] => some standardLimit
  | [(_, w)] => readLimit? w
  | _ => none

/-- The limit that settings stand for. -/
def limitOfWritten? : Json.Written → Option Nat
  | .object members => do
    let named ← members.mapM fun (name, w) => do return ((← Json.decodeText name), w)
    limitAmong? named
  | .array [] => some standardLimit
  | .array [w] => readLimit? w
  | _ => none

/-- The limit that a text of settings stands for. The empty object may have any blanks around it, other
texts only those of JSON. -/
def limitOfText? (text : String) : Option Nat :=
  if Text.trim text = "\x7b\x7d" then some standardLimit
  else do limitOfWritten? (← Json.readAll text)

/-- An empty database with these settings, which must allow at least one connection. -/
def ofSettings (text : String) : Except Failure Database :=
  match limitOfText? text with
  | none => .error (.of .malformedSettings)
  | some 0 => .error (.of .noConnectionsAllowed)
  | some limit => .ok (empty limit)

theorem ofSettings_empty_object : ofSettings "\x7b\x7d" = .ok (empty standardLimit) := by
  have h : limitOfText? "\x7b\x7d" = some standardLimit := rfl
  rw [ofSettings, h]
  rfl

/-- The connections that can be opened one after the other on this database, `tries` at most: their
number, and the failure of the first that is refused. -/
def openUntilRefused (db : Database) : (tries : Nat) → Nat × Option Failure
  | 0 => (db.openCount, none)
  | tries + 1 =>
    match Action.connect.attempt db with
    | (.ok (), db) => openUntilRefused db tries
    | (.error e, db) => (db.openCount, some e)

end RecordSink.Database
