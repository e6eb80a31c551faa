import RecordSink.Json.Printer
import RecordSink.Json.Reader
import RecordSink.Record
import RecordSink.Text.Blank
/-!
Records in JSON. A record is an object of its fields in order; a value is an object of its kind and
what it holds. Reading allows more than writing produces: the two members of a value in any order
among others, or in an array, and a single record in place of a batch.
-/
namespace RecordSink

/-- Why a text is no value, record or batch. -/
inductive DecodeError where
  /-- It is not JSON, or not of the right form. -/
  | malformed
  /-- A record has a field twice. -/
  | repeatedField (name : String)
  deriving DecidableEq, Repr

namespace Value

/-- What a value holds. -/
def contentChars : Value → List Char
  | boolean b => Json.boolChars b
  | byte n => Json.intChars n.toInt
  | short n => Json.intChars n.toInt
  | integer n => Json.intChars n.toInt
  | long n => Json.intChars n.toInt
  | double d => Json.doubleChars d
  | string s => Json.quote s
  | byteArray bytes => Json.bracketed (bytes.map fun b => Json.intChars b.toNat)

/-- A value in JSON. -/
def jsonChars (v : Value) : List Char :=
  Json.braced [Json.member "type" (Json.quote v.kind.name), Json.member "value" v.contentChars]

/-- An integer between two bounds, the upper one excluded. -/
def within? (low high : Int) (w : Json.Written) : Option Int := do
  let n ← w.int?
  if low ≤ n ∧ n < high then some n else none

/-- A double: integers are rounded to the nearest. -/
def readDouble? (w : Json.Written) : Option Double := do
  match ← w.number? with
  | .double d => return d
  | .int (.ofNat n) => return Double.ofNat n
  | .int (.negSucc n) => return (Double.ofNat (n + 1)).neg

/-- The value of a kind that is written as its content. -/
def ofContent? (k : Kind) (w : Json.Written) : Option Value :=
  match k with
  | .boolean =>
    match w with
    | .bool b => some (boolean b)
    | _ => none
  | .byte => (within? (-0x80) 0x80 w).map fun n => byte (Int8.ofInt n)
  | .short => (within? (-0x8000) 0x8000 w).map fun n => short (Int16.ofInt n)
  | .integer => (within? (-0x80000000) 0x80000000 w).map fun n => integer (Int32.ofInt n)
  | .long => (within? (-0x8000000000000000) 0x8000000000000000 w).map fun n => long (Int64.ofInt n)
  | .double => (readDouble? w).map double
  | .string => w.text?.map string
  | .byteArray =>
    match w with
    | .array items =>
      (items.mapM (within? 0 0x100)).map fun ns => byteArray (ns.map fun n => UInt8.ofNat n.toNat)
    | _ => none

/-- The kind that is written as a string, or as an object with nothing in it but the kind. -/
def readKind? : Json.Written → Option Kind
  | .string pieces => do Kind.ofName? (← Json.decodeText pieces)
  | .object [(name, .null)] => do Kind.ofName? (← Json.decodeText name)
  | _ => none

/-- The value that is written as an object or an array of its kind and its content. -/
def ofWritten? : Json.Written → Option Value
  | .object members => do
    let named ← members.mapM fun (name, w) => do return ((← Json.decodeText name), w)
    match named.filter fun m => m.1 == "type", named.filter fun m => m.1 == "value" with
    | [(_, kind)], [(_, content)] => ofContent? (← readKind? kind) content
    | _, _ => none
  | .array [kind, content] => do ofContent? (← readKind? kind) content
  | _ => none

/-- The value that a text is. -/
def parseJson (text : String) : Except DecodeError Value :=
  match Json.readAll text with
  | none => .error .malformed
  | some w =>
    match ofWritten? w with
    | none => .error .malformed
    | some v => .ok v

end Value

namespace Record

/-- A record in JSON. -/
def jsonChars (r : Record) : List Char :=
  Json.braced (r.fields.map fun (name, v) => Json.member name v.jsonChars)

/-- The fields that members of an object stand for. -/
def fieldsOfWritten? (members : List (List Json.Piece × Json.Written)) : Option NamedValues :=
  members.mapM fun (name, w) => do return ((← Json.decodeText name), (← Value.ofWritten? w))

/-- The record that is written as an object of its fields. -/
def ofWritten : Json.Written → Except DecodeError Record
  | .object members =>
    match fieldsOfWritten? members with
    | none => .error .malformed
    | some fields =>
      match ofFields fields with
      | .error name => .error (.repeatedField name)
      | .ok r => .ok r
  | _ => .error .malformed

/-- A record at the beginning of a text, and what follows it. -/
def readJson (cs : List Char) : Except DecodeError (Record × List Char) :=
  match Json.readWritten cs with
  | none => .error .malformed
  | some (w, rest) => do return ((← ofWritten w), rest)

/-- The record that a text is. -/
def parseJson (text : String) : Except DecodeError Record := do
  let (r, rest) ← readJson text.toList
  if (Json.skipBlanks rest).isEmpty then return r else throw .malformed

end Record

namespace Batch

/-- A batch in JSON: an array of records. -/
def jsonChars (batch : List Record) : List Char :=
  Json.bracketed (batch.map Record.jsonChars)

/-- A batch in JSON, as text. -/
def json (batch : List Record) : String :=
  String.ofList (jsonChars batch)

/-- The records of an array, at least one, up to its closing bracket. -/
def readRecords : Nat → List Char → Except DecodeError (List Record × List Char)
  | 0, _ => .error .malformed
  | fuel + 1, cs => do
    let (r, rest) ← Record.readJson cs
    match Json.skipBlanks rest with
    | ']' :: rest => return ([r], rest)
    | ',' :: rest => do
      let (records, rest) ← readRecords fuel rest
      return (r :: records, rest)
    | _ => throw .malformed

/-- An array of records, and what follows it. -/
def readArray (cs : List Char) : Except DecodeError (List Record × List Char) :=
  match Json.skipBlanks cs with
  | '[' :: rest =>
    match Json.skipBlanks rest with
    | ']' :: rest => .ok ([], rest)
    | rest => readRecords rest.length rest
  | _ => .error .malformed

/-- The batch that a line is: an array of records if its first character that is not blank opens one,
and otherwise a single record. -/
def parseLine (line : String) : Except DecodeError (List Record) :=
  match Text.trimStart line.toList with
  | '[' :: _ => do
    let (records, rest) ← readArray line.toList
    if (Json.skipBlanks rest).isEmpty then return records else throw .malformed
  | _ => do return [← Record.parseJson line]

end Batch
end RecordSink
