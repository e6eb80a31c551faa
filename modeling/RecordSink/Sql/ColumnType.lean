import RecordSink.Text.Ascii
import RecordSink.Text.Blank
import RecordSink.Value
/-!
Column types. A column of each type takes the values of exactly one kind; which type a kind gets
when a column is made for it is a `Typing`.
-/
namespace RecordSink

/-- The type of a column. -/
inductive ColumnType where
  | boolean
  | tinyInt
  | smallInt
  | integer
  | bigInt
  | double
  | varchar
  | binary
  deriving DecidableEq, Repr

namespace ColumnType

/-- The type as it is written in a statement. Text columns are made 102400 characters wide. -/
def text : ColumnType → String
  | boolean => "BOOLEAN"
  | tinyInt => "TINYINT"
  | smallInt => "SMALLINT"
  | integer => "INTEGER"
  | bigInt => "BIGINT"
  | double => "DOUBLE"
  | varchar => "VARCHAR(102400)"
  | binary => "BINARY"

/-- The type that a word in upper case names. -/
def ofWord? : String → Option ColumnType
  | "BOOLEAN" => some boolean
  | "BOOL" => some boolean
  | "TINYINT" => some tinyInt
  | "SMALLINT" => some smallInt
  | "INTEGER" => some integer
  | "INT" => some integer
  | "BIGINT" => some bigInt
  | "DOUBLE" => some double
  | "VARCHAR" => some varchar
  | "BINARY" => some binary
  | "VARBINARY" => some binary
  | _ => none

/-- The type that a text names, in any case. What follows an opening parenthesis is ignored, so all
widths of one type are the same type. -/
def ofText? (s : String) : Option ColumnType :=
  ofWord? (Text.upper (Text.trim (String.ofList (s.toList.takeWhile (· != '(')))))

theorem ofText?_text (t : ColumnType) : ofText? t.text = some t := by
  cases t <;> rfl

/-- The kind of value that a column takes. -/
def kind : ColumnType → Kind
  | boolean => .boolean
  | tinyInt => .byte
  | smallInt => .short
  | integer => .integer
  | bigInt => .long
  | double => .double
  | varchar => .string
  | binary => .byteArray

/-- Whether a column takes this value. -/
def accepts (t : ColumnType) (v : Value) : Bool :=
  t.kind == v.kind

end ColumnType

/-- Which type the column for a kind of value gets. -/
abbrev Typing := Kind → ColumnType

namespace Typing

/-- One type for each kind: the one that takes it. -/
def standard : Typing
  | .boolean => .boolean
  | .byte => .tinyInt
  | .short => .smallInt
  | .integer => .integer
  | .long => .bigInt
  | .double => .double
  | .string => .varchar
  | .byteArray => .binary

/-- Text columns for everything. -/
def allText : Typing :=
  fun _ => .varchar

theorem standard_kind (t : ColumnType) : standard t.kind = t := by
  cases t <;> rfl

theorem kind_standard (k : Kind) : (standard k).kind = k := by
  cases k <;> rfl

/-- The standard type is the only one that takes a value. -/
theorem accepts_iff_eq_standard {t : ColumnType} {v : Value} :
    t.accepts v = true ↔ t = standard v.kind := by
  cases t <;> cases v <;> simp [ColumnType.accepts, ColumnType.kind, Value.kind, standard]

end Typing
end RecordSink
