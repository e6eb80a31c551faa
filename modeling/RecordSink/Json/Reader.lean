import RecordSink.Json.Basic
import RecordSink.Json.Number
import RecordSink.Json.Text
/-!
Reading JSON text. A text is read as it is written first: numerals by their digits, strings by their
pieces. What it stands for is worked out later, and only for what is needed.
-/
namespace RecordSink.Json

/-- A JSON value as it is written. -/
inductive Written where
  | null
  | bool (b : Bool)
  | number (n : Numeral)
  | string (pieces : List Piece)
  | array (items : List Written)
  | object (members : List (List Piece × Written))
  deriving Repr, Inhabited

/-- The blanks of JSON: space, tab, line feed and carriage return. -/
def isBlank (c : Char) : Bool :=
  c == ' ' || c == '\t' || c == '\n' || c == '\r'

/-- The text after the blanks at its beginning. -/
def skipBlanks (cs : List Char) : List Char :=
  cs.dropWhile isBlank

mutual

/-- A value, and what follows it. -/
def readValue : Nat → List Char → Option (Written × List Char)
  | 0, _ => none
  | fuel + 1, cs =>
    match skipBlanks cs with
    | '"' :: rest => do
      let (pieces, rest) ← readPieces rest
      return (.string pieces, rest)
    | '[' :: rest =>
      match skipBlanks rest with
      | ']' :: rest => some (.array [], rest)
      | rest => do
        let (items, rest) ← readItems fuel rest
        return (.array items, rest)
    | '\x7b' :: rest =>
      match skipBlanks rest with
      | '\x7d' :: rest => some (.object [], rest)
      | rest => do
        let (members, rest) ← readMembers fuel rest
        return (.object members, rest)
    | 'n' :: 'u' :: 'l' :: 'l' :: rest => some (.null, rest)
    | 't' :: 'r' :: 'u' :: 'e' :: rest => some (.bool true, rest)
    | 'f' :: 'a' :: 'l' :: 's' :: 'e' :: rest => some (.bool false, rest)
    | rest => do
      let (n, rest) ← readNumeral rest
      return (.number n, rest)

/-- The items of an array, at least one, up to its closing bracket. -/
def readItems : Nat → List Char → Option (List Written × List Char)
  | 0, _ => none
  | fuel + 1, cs => do
    let (item, rest) ← readValue fuel cs
    match skipBlanks rest with
    | ']' :: rest => return ([item], rest)
    | ',' :: rest => do
      let (items, rest) ← readItems fuel rest
      return (item :: items, rest)
    | _ => none

/-- The members of an object, at least one, up to its closing brace. -/
def readMembers : Nat → List Char → Option (List (List Piece × Written) × List Char)
  | 0, _ => none
  | fuel + 1, cs =>
    match skipBlanks cs with
    | '"' :: rest => do
      let (name, rest) ← readPieces rest
      match skipBlanks rest with
      | ':' :: rest => do
        let (value, rest) ← readValue fuel rest
        match skipBlanks rest with
        | '\x7d' :: rest => return ([(name, value)], rest)
        | ',' :: rest => do
          let (members, rest) ← readMembers fuel rest
          return ((name, value) :: members, rest)
        | _ => none
      | _ => none
    | _ => none

end

/-- A value, and what follows it. Every step down costs at least half a character. -/
def readWritten (cs : List Char) : Option (Written × List Char) :=
  readValue (2 * cs.length + 2) cs

/-- The value that a whole text is, with nothing but blanks around it. -/
def readAll (text : String) : Option Written := do
  let (w, rest) ← readWritten text.toList
  if (skipBlanks rest).isEmpty then some w else none

namespace Written

/-- The text that a string stands for. -/
def text? : Written → Option String
  | string pieces => decodeText pieces
  | _ => none

/-- The number that a numeral stands for. -/
def number? : Written → Option Number
  | number n => n.number?
  | _ => none

/-- The integer that a numeral stands for. -/
def int? (w : Written) : Option Int :=
  match w.number? with
  | some (.int n) => some n
  | _ => none

mutual

/-- What a value stands for. -/
def data? : Written → Option Json
  | null => some .null
  | bool b => some (.bool b)
  | number n =>
    match n.number? with
    | some (.int n) => some (.int n)
    | some (.double d) => some (.double d)
    | none => none
  | string pieces => (decodeText pieces).map .string
  | array items => (dataItems? items).map .array
  | object members => (dataMembers? members).map ofMembers

/-- What items stand for. -/
def dataItems? : List Written → Option (List Json)
  | [] => some []
  | w :: rest => do return (← w.data?) :: (← dataItems? rest)

/-- What members stand for. -/
def dataMembers? : List (List Piece × Written) → Option (List (String × Json))
  | [] => some []
  | (name, w) :: rest => do
    return ((← decodeText name), (← w.data?)) :: (← dataMembers? rest)

end

end Written

/-- The data that a text stands for. -/
def parse? (text : String) : Option Json := do
  (← readAll text).data?

end RecordSink.Json
