import RecordSink.Json.Basic
import RecordSink.Json.Text
/-!
Writing JSON text, without blanks. Doubles are written by their shortest digits; those that are not
finite have no JSON form and are written as `null`.
-/
namespace RecordSink.Json

/-- Items with commas between them. -/
def joined : List (List Char) → List Char
  | [] => []
  | [item] => item
  | item :: rest => item ++ ',' :: joined rest

/-- Items in brackets. -/
def bracketed (items : List (List Char)) : List Char :=
  '[' :: joined items ++ [']']

/-- Members in braces. -/
def braced (members : List (List Char)) : List Char :=
  '\x7b' :: joined members ++ ['\x7d']

/-- A member of an object. -/
def member (name : String) (value : List Char) : List Char :=
  quote name ++ ':' :: value

/-- A truth value. -/
def boolChars (b : Bool) : List Char :=
  if b then ['t', 'r', 'u', 'e'] else ['f', 'a', 'l', 's', 'e']

/-- An integer. -/
def intChars (n : Int) : List Char :=
  (intText n).toList

/-- A double. -/
def doubleChars (d : Double) : List Char :=
  if d.isNaN || d.isInfinite then ['n', 'u', 'l', 'l'] else DoubleFormat.json.finite d

mutual

/-- The text of JSON data. -/
def chars : Json → List Char
  | null => ['n', 'u', 'l', 'l']
  | bool b => boolChars b
  | int n => intChars n
  | double d => doubleChars d
  | string s => quote s
  | array items => bracketed (charsItems items)
  | object members => braced (charsMembers members)

/-- The texts of items. -/
def charsItems : List Json → List (List Char)
  | [] => []
  | item :: rest => chars item :: charsItems rest

/-- The texts of members. -/
def charsMembers : List (String × Json) → List (List Char)
  | [] => []
  | (name, value) :: rest => member name (chars value) :: charsMembers rest

end

/-- JSON data as text. -/
def text (data : Json) : String :=
  String.ofList data.chars

end RecordSink.Json
