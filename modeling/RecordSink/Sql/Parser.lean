import RecordSink.Sql.Statement
import RecordSink.Sql.Token
/-!
Reading statements from tokens, by recursive descent. Keywords and types are recognised in any case;
names keep their case and must not be reserved.
-/
namespace RecordSink.Sql

/-- A reader of tokens: what it makes of the first ones, and those that it leaves. -/
abbrev Parser := StateT (List Token) (Except SyntaxError)

namespace Parser

/-- Exactly this keyword. -/
def keyword (word : String) : Parser Unit := fun tokens =>
  match tokens with
  | .word w :: rest =>
    if Text.sameFolded w word then .ok ((), rest)
    else .error (.expected (.keyword word) (some (.word w)))
  | other => .error (.expected (.keyword word) other.head?)

/-- Whether this keyword comes next. -/
def nextIsKeyword (word : String) : Parser Bool := fun tokens =>
  match tokens with
  | .word w :: _ => .ok (Text.sameFolded w word, tokens)
  | _ => .ok (false, tokens)

/-- Whether this token comes next. -/
def nextIs (token : Token) : Parser Bool := fun tokens =>
  .ok (tokens.head? == some token, tokens)

/-- One token, whatever it is. -/
def skip : Parser Unit := fun tokens =>
  .ok ((), tokens.drop 1)

/-- Any word. -/
def identifier : Parser String := fun tokens =>
  match tokens with
  | .word w :: rest => .ok (w, rest)
  | other => .error (.expected .identifier other.head?)

/-- The name of a table or a column. -/
def name : Parser String := do
  let word ← identifier
  if isReserved word then throw (.reservedName word)
  return word

/-- Exactly this token. -/
def token (t : Token) : Parser Unit := fun tokens =>
  match tokens with
  | u :: rest => if u = t then .ok ((), rest) else .error (.expected (.token t) (some u))
  | [] => .error (.expected (.token t) none)

/-- Any number. -/
def number : Parser Nat := fun tokens =>
  match tokens with
  | .number n :: rest => .ok (n, rest)
  | other => .error (.expected .number other.head?)

/-- Nothing more. -/
def finish : Parser Unit := fun tokens =>
  match tokens with
  | [] => .ok ((), [])
  | t :: _ => .error (.trailing t)

/-- As many more items as commas follow, at most `fuel` of them. -/
def moreItems (item : Parser α) : Nat → Parser (List α)
  | 0 => return []
  | fuel + 1 => do
    if ← nextIs .comma then
      skip
      let first ← item
      let rest ← moreItems item fuel
      return first :: rest
    else
      return []

/-- One or more items with commas between them. Each comma is a token, so there are not more items
than tokens. -/
def items (item : Parser α) : Parser (List α) := do
  let first ← item
  let rest ← moreItems item (← get).length
  return first :: rest

/-- Items in parentheses. -/
def parenthesized (item : Parser α) : Parser (List α) := do
  token .leftParen
  let all ← items item
  token .rightParen
  return all

/-- A type, perhaps with a width. -/
def columnType : Parser ColumnType := do
  let word ← identifier
  match ColumnType.ofText? word with
  | none => throw (.unknownType word)
  | some type =>
    if ← nextIs .leftParen then
      skip
      let _ ← number
      token .rightParen
    return type

/-- The constraints of a column, in any order and number: whether it may not be empty, and whether
it is the key. -/
def constraints (notNull primaryKey : Bool) : Nat → Parser (Bool × Bool)
  | 0 => return (notNull, primaryKey)
  | fuel + 1 => do
    if ← nextIsKeyword "NOT" then
      skip
      keyword "NULL"
      constraints true primaryKey fuel
    else if ← nextIsKeyword "PRIMARY" then
      skip
      keyword "KEY"
      constraints notNull true fuel
    else
      return (notNull, primaryKey)

/-- The definition of a column. -/
def column : Parser Column := do
  let name ← name
  let type ← columnType
  let (notNull, primaryKey) ← constraints false false (← get).length
  return ⟨name, type, notNull, primaryKey⟩

/-- Whether the phrase `IF NOT EXISTS` stands here. -/
def ifNotExists : Parser Bool := do
  if ← nextIsKeyword "IF" then
    skip
    keyword "NOT"
    keyword "EXISTS"
    return true
  else
    return false

/-- What follows `CREATE`. -/
def createTable : Parser Statement := do
  keyword "TABLE"
  let ifNotExists ← ifNotExists
  let table ← name
  let columns ← parenthesized column
  return .createTable table ifNotExists columns

/-- What follows `ALTER`. -/
def alterTable : Parser Statement := do
  keyword "TABLE"
  let table ← name
  let action ← identifier
  keyword "COLUMN"
  match Text.upper action with
  | "ADD" => return .addColumn table (← column)
  | "DROP" => return .dropColumn table (← name)
  | other => throw (.unknownAction other)

/-- What follows `INSERT`. -/
def insert : Parser Statement := do
  keyword "INTO"
  let table ← name
  let columns ← parenthesized name
  keyword "VALUES"
  let placeholders ← parenthesized (token .placeholder)
  return .insert table columns placeholders.length

/-- What follows `DELETE`. -/
def delete : Parser Statement := do
  keyword "FROM"
  let table ← name
  if ← nextIsKeyword "LIMIT" then
    skip
    return .delete table (some (← number))
  else
    return .delete table none

/-- What follows `TRUNCATE`. -/
def truncate : Parser Statement := do
  keyword "TABLE"
  return .truncate (← name)

/-- A statement, up to its last token. -/
def statement : Parser Statement := do
  let verb ← identifier
  let s ← match Text.upper verb with
    | "CREATE" => createTable
    | "ALTER" => alterTable
    | "INSERT" => insert
    | "DELETE" => delete
    | "TRUNCATE" => truncate
    | other => throw (.unknownStatement other)
  finish
  return s

end Parser

/-- The statement that a text is. -/
def parse (sql : String) : Except SyntaxError Statement := do
  let tokens ← tokenize sql
  let (s, _) ← Parser.statement.run tokens
  return s

end RecordSink.Sql
