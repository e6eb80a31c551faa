import RecordSink.Toml.Calendar
import RecordSink.Toml.Numeral
import RecordSink.Toml.Quoted
import RecordSink.Toml.Tree
/-!
Documents. A document is a list of sections: settings that come before any header, and then headers
with the settings that follow each. Values nest, and keys are dotted, to a depth below eighty.
-/
namespace RecordSink.Toml

/-- The depth that neither values nor keys reach. -/
def maxDepth : Nat :=
  80

namespace Reader

/-- A character that can stand in a key without quotes. -/
def isBareKey (c : Char) : Bool :=
  c.isAlphanum || c == '_' || c == '-'

/-- A part of a key. -/
def keyPart : Reader String :=
  quotedLine <|> do
    let first ← char isBareKey
    return String.ofList (first :: (← run isBareKey))

/-- A key: parts with points between them, and blanks anywhere around them. -/
def key : Reader (List String) := do
  let parts ← separated (do blanks; let part ← keyPart; blanks; return part) '.'
  if parts.length < maxDepth then return parts else failure

/-- A truth value. -/
def bool : Reader Bool :=
  (do exactly ['t', 'r', 'u', 'e']; return true) <|>
    (do exactly ['f', 'a', 'l', 's', 'e']; return false)

/-- A value that holds no other values. -/
def scalar : Reader Toml :=
  (do return .string (← quoted)) <|> (do return .moment (← moment .document)) <|>
    (do return .float (← float)) <|> (do return .int (← int)) <|> (do return .bool (← bool))

/-- An array of items, on any number of lines, perhaps with a comma at the end. -/
def array (item : Reader Toml) : Reader Toml := do
  mark '['
  let items ← option do
    let items ← separated (do skipLines; let v ← item; skipLines; return v) ','
    let _ ← option (mark ',')
    return items
  skipLines
  mark ']'
  return .array (items.getD [])

/-- A key and its value. -/
def setting (item : Reader Toml) : Reader (List String × Toml) := do
  let k ← key
  mark '='
  blanks
  return (k, ← item)

/-- A table between braces, on one line. -/
def inlineTable (item : Reader Toml) : Reader Toml := do
  mark '\x7b'
  let settings ← option (separated (do let s ← setting item; blanks; return s) ',')
  blanks
  mark '\x7d'
  return .table (← ofOption (Nodes.membersOf (settings.getD [])))

/-- A value that is nested at most this deep. -/
def value : (depth : Nat) → Reader Toml
  | 0 => scalar
  | depth + 1 => scalar <|> array (value depth) <|> inlineTable (value depth)

/-- A key and its value on a line. -/
def settingLine : Reader (List String × Toml) := do
  let s ← setting (value (maxDepth - 1))
  restOfLine
  return s

/-- A line without a setting or a header. -/
def emptyLine : Reader Unit := do
  if (← get).isEmpty then failure
  restOfLine

/-- Settings on lines, with empty lines among them. -/
def settings : Reader (List (List String × Toml)) := do
  let lines ← many ((do return some (← settingLine)) <|> (do emptyLine; return none))
  return lines.filterMap id

/-- A header with the settings that follow it: its key, and what they change at the end of it. -/
def headed : Reader (List String × (String → Nodes → Option Nodes)) := do
  blanks
  mark '['
  match ← option (mark '[') with
  | none =>
    let k ← key
    mark ']'
    restOfLine
    return (k, Nodes.startTable (← settings))
  | some () =>
    let k ← key
    exactly [']', ']']
    restOfLine
    return (k, Nodes.extendRow (← settings))

/-- A document: its members, in the order in which they came. -/
def document : Reader (List (String × Toml)) := do
  let _ ← option (mark '\ufeff')
  let first ← settings
  let sections ← many headed
  atEnd
  let root ← ofOption (Nodes.putAll [] first)
  let all ← ofOption (sections.foldlM (fun entries (k, change) => Nodes.alter change k entries) root)
  return Node.dataEntries all

end Reader

/-- The members of the document that a text is. -/
def parse? (text : String) : Option (List (String × Toml)) := do
  let (members, _) ← StateT.run Reader.document text.toList
  return members

end RecordSink.Toml
