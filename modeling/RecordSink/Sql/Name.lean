import RecordSink.Text.Ascii
/-!
Names of tables and columns. A name is a word that is not reserved. A `Naming` makes a name out of
an arbitrary text; the standard one always yields a word.
-/
namespace RecordSink.Sql

/-- The words that cannot stand as names. `TIMESTAMP` is not among them: it names the key column. -/
def reservedWords : List String := [
  "ADD", "ALL", "ALTER", "AND", "ANY", "AS", "ASC", "BETWEEN", "BY", "CASE", "CAST", "CHECK",
  "COLUMN", "CONSTRAINT", "CREATE", "CROSS", "CURRENT_DATE", "CURRENT_TIME",
  "CURRENT_TIMESTAMP", "CURRENT_USER", "DEFAULT", "DELETE", "DESC", "DISTINCT", "DROP", "ELSE",
  "END", "EXCEPT", "EXISTS", "FALSE", "FETCH", "FOR", "FOREIGN", "FROM", "FULL", "GRANT",
  "GROUP", "HAVING", "IF", "IN", "INDEX", "INNER", "INSERT", "INTERSECT", "INTO", "IS", "JOIN",
  "KEY", "LEFT", "LIKE", "LIMIT", "NOT", "NULL", "OFFSET", "ON", "OR", "ORDER", "OUTER",
  "PRIMARY", "REFERENCES", "REVOKE", "RIGHT", "SELECT", "SET", "TABLE", "THEN", "TO", "TRUE",
  "TRUNCATE", "UNION", "UNIQUE", "UPDATE", "USER", "USING", "VALUES", "WHEN", "WHERE", "WITH"]

/-- Whether a word is reserved, in any case. -/
def isReserved (word : String) : Bool :=
  reservedWords.any fun r => Text.sameFolded r word

/-- A character that can begin a word. -/
def isWordStart (c : Char) : Bool :=
  c.isAlpha || c == '_'

/-- A character that can stand inside a word. -/
def isWordPart (c : Char) : Bool :=
  c.isAlphanum || c == '_'

/-- A word: a letter or an underscore, then letters, digits and underscores, all ASCII. -/
def isWord (s : String) : Bool :=
  match s.toList with
  | [] => false
  | c :: cs => isWordStart c && cs.all isWordPart

/-- A name of a table or a column: a word that is not reserved. -/
def isName (s : String) : Bool :=
  isWord s && !isReserved s

end RecordSink.Sql

namespace RecordSink

/-- How an arbitrary text becomes a name. -/
abbrev Naming := String → String

namespace Naming

/-- Underscores for all characters that cannot stand in a word, and one in front of a text that is
empty, starts with a digit or is reserved. -/
def standard : Naming := fun text =>
  let word := text.toList.map fun c => if Sql.isWordPart c then c else '_'
  let needsMark := match text.toList with
    | [] => true
    | c :: _ => c.isDigit
  String.ofList (if needsMark || Sql.isReserved text then '_' :: word else word)

/-- The text itself. -/
def verbatim : Naming :=
  fun text => text

/-- The standard name of the text in upper case. -/
def upperCased : Naming :=
  fun text => standard (Text.upper text)

end Naming
end RecordSink
