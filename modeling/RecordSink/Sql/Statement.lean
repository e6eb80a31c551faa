import RecordSink.Number.Decimal
import RecordSink.Sql.ColumnType
/-!
Statements and their text. Only six shapes exist: a table is created, gains or loses a column,
receives one row of parameters, loses rows from the front, or is emptied.
-/
namespace RecordSink

/-- A column of a table. -/
structure Column where
  /-- The name, with its letter case. -/
  name : String
  /-- The type of its cells. -/
  type : ColumnType
  /-- Whether cells may not be empty. -/
  notNull : Bool
  /-- Whether the column is the key. -/
  primaryKey : Bool
  deriving DecidableEq, Repr

namespace Column

/-- A column that is no key and may be empty. -/
def plain (name : String) (type : ColumnType) : Column :=
  ⟨name, type, false, false⟩

/-- Whether every row has a value in this column. -/
def required (c : Column) : Bool :=
  c.notNull || c.primaryKey

/-- The column as it is written in a statement. -/
def text (c : Column) : String :=
  c.name ++ " " ++ c.type.text ++ (if c.notNull then " NOT NULL" else "") ++
    (if c.primaryKey then " PRIMARY KEY" else "")

end Column

namespace Sql

/-- A statement. -/
inductive Statement where
  | createTable (table : String) (ifNotExists : Bool) (columns : List Column)
  | addColumn (table : String) (column : Column)
  | dropColumn (table column : String)
  | insert (table : String) (columns : List String) (placeholders : Nat)
  | delete (table : String) (limit : Option Nat)
  | truncate (table : String)
  deriving DecidableEq, Repr

namespace Statement

/-- The word that a statement begins with. -/
def verb : Statement → String
  | createTable .. => "CREATE"
  | addColumn .. => "ALTER"
  | dropColumn .. => "ALTER"
  | insert .. => "INSERT"
  | delete .. => "DELETE"
  | truncate .. => "TRUNCATE"

/-- Texts with a comma and a space between each two. -/
def commaSeparated (texts : List String) : String :=
  String.intercalate ", " texts

/-- The statement as text. -/
def text : Statement → String
  | createTable table ifNotExists columns =>
    "CREATE TABLE " ++ (if ifNotExists then "IF NOT EXISTS " else "") ++ table ++ " (" ++
      commaSeparated (columns.map Column.text) ++ ");"
  | addColumn table column => "ALTER TABLE " ++ table ++ " ADD COLUMN " ++ column.text ++ ";"
  | dropColumn table column => "ALTER TABLE " ++ table ++ " DROP COLUMN " ++ column ++ ";"
  | insert table columns placeholders =>
    "INSERT INTO " ++ table ++ " (" ++ commaSeparated columns ++ ") VALUES (" ++
      commaSeparated (List.replicate placeholders "?") ++ ");"
  | delete table none => "DELETE FROM " ++ table ++ ";"
  | delete table (some limit) => "DELETE FROM " ++ table ++ " LIMIT " ++ natText limit ++ ";"
  | truncate table => "TRUNCATE TABLE " ++ table ++ ";"

end Statement
end Sql
end RecordSink
