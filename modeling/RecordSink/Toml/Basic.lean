import RecordSink.Json.Basic
import RecordSink.Toml.Moment
/-!
TOML data: what is left of a TOML document when notation is forgotten. Two values are the same if they
are of one type and equal as numbers, texts or moments, with the same members in the same order; a
float that is not a number differs from everything. In JSON, moments are objects with a single member
and floats that are not finite are null.
-/
namespace RecordSink

/-- TOML data. A table has each name once. -/
inductive Toml where
  | string (s : String)
  | int (n : Int)
  | float (d : Double)
  | bool (b : Bool)
  | moment (m : Toml.Moment)
  | array (items : List Toml)
  | table (members : List (String × Toml))
  deriving Repr, Inhabited

namespace Toml

/-- The name of the only member of a moment in JSON. -/
def momentName : String :=
  "$__toml_private_datetime"

mutual

/-- Whether two values are the same. -/
def same : Toml → Toml → Bool
  | string s, string t => s == t
  | int m, int n => m == n
  | float d, float e => d.equals e
  | bool b, bool c => b == c
  | moment m, moment n => m == n
  | array items, array others => sameItems items others
  | table members, table others => sameMembers members others
  | _, _ => false

/-- Whether two lists of items are the same. -/
def sameItems : List Toml → List Toml → Bool
  | [], [] => true
  | item :: rest, other :: others => item.same other && sameItems rest others
  | _, _ => false

/-- Whether two lists of members are the same. -/
def sameMembers : List (String × Toml) → List (String × Toml) → Bool
  | [], [] => true
  | (name, value) :: rest, (otherName, other) :: others =>
    name == otherName && value.same other && sameMembers rest others
  | _, _ => false

end

mutual

/-- A value as JSON data. -/
def json : Toml → Json
  | string s => .string s
  | int n => .int n
  | float d => if d.isNaN || d.isInfinite then .null else .double d
  | bool b => .bool b
  | moment m => .object [(momentName, .string m.text)]
  | array items => .array (jsonItems items)
  | table members => .object (jsonMembers members)

/-- Items as JSON data. -/
def jsonItems : List Toml → List Json
  | [] => []
  | item :: rest => item.json :: jsonItems rest

/-- Members as JSON data. -/
def jsonMembers : List (String × Toml) → List (String × Json)
  | [] => []
  | (name, value) :: rest => (name, value.json) :: jsonMembers rest

end

/-- Two sections of a document that may be absent are the same if both are absent, or neither is and
they hold the same. -/
def sameSections : Option Toml → Option Toml → Bool
  | none, none => true
  | some a, some b => a.same b
  | _, _ => false

end Toml
end RecordSink
