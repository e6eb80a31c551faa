import RecordSink.Number.Double
/-!
Values and their kinds. A field of a record, a parameter of a statement and a cell of a table all
hold one of these values.
-/
namespace RecordSink

/-- The kind of a value. -/
inductive Kind where
  | boolean
  | byte
  | short
  | integer
  | long
  | double
  | string
  | byteArray
  deriving DecidableEq, Repr

namespace Kind

/-- Every kind. -/
def all : List Kind :=
  [boolean, byte, short, integer, long, double, string, byteArray]

/-- The name of a kind, as it is written in JSON and in messages. -/
def name : Kind → String
  | boolean => "boolean"
  | byte => "byte"
  | short => "short"
  | integer => "integer"
  | long => "long"
  | double => "double"
  | string => "string"
  | byteArray => "byte_array"

/-- The kind with this name. -/
def ofName? (s : String) : Option Kind :=
  all.find? fun k => k.name == s

theorem mem_all (k : Kind) : k ∈ all := by
  cases k <;> decide

theorem ofName?_name (k : Kind) : ofName? k.name = some k := by
  cases k <;> decide

/-- The native type that a parameter of this kind is bound as. -/
def bindingType : Kind → String
  | boolean => "bool"
  | byte => "tinyint"
  | short => "smallint"
  | integer => "int"
  | long => "bigint"
  | double => "double"
  | string => "text"
  | byteArray => "bytes"

end Kind

/-- A value together with its kind. -/
inductive Value where
  | boolean (b : Bool)
  | byte (n : Int8)
  | short (n : Int16)
  | integer (n : Int32)
  | long (n : Int64)
  | double (d : Double)
  | string (s : String)
  | byteArray (bytes : List UInt8)
  deriving DecidableEq, Repr

namespace Value

/-- The kind of a value. -/
def kind : Value → Kind
  | boolean _ => .boolean
  | byte _ => .byte
  | short _ => .short
  | integer _ => .integer
  | long _ => .long
  | double _ => .double
  | string _ => .string
  | byteArray _ => .byteArray

/-- Equality of values as keys: doubles compare as numbers, everything else compares as it is. -/
def equals : Value → Value → Bool
  | double d, double e => d.equals e
  | v, w => v == w

theorem kind_eq_of_equals {v w : Value} (h : v.equals w = true) : v.kind = w.kind := by
  cases v <;> cases w <;> simp_all [equals, kind]

theorem equals_comm (v w : Value) : v.equals w = w.equals v := by
  cases v <;> cases w <;> simp [equals, Double.equals_comm, Bool.beq_comm]

end Value
end RecordSink
