import RecordSink.Entries
/-!
Settings: validated values of configuration parameters, each of one of four types. Reading a setting
as another type finds nothing, except that a signed integer that is not negative can be read as an
unsigned one.
-/
namespace RecordSink

/-- The value of a parameter. -/
inductive Setting where
  | bool (b : Bool)
  | int64 (n : Int64)
  | uint64 (n : UInt64)
  | text (s : String)
  deriving DecidableEq, Repr

/-- Values of parameters by name. -/
structure Settings where
  /-- The values, each name once. -/
  entries : Entries Setting
  deriving DecidableEq, Repr

namespace Settings

/-- No settings. -/
def empty : Settings :=
  ⟨[]⟩

/-- The value with this name. -/
def get? (s : Settings) (name : String) : Option Setting :=
  s.entries.lookup name

/-- The settings with one value replaced or added. -/
def set (s : Settings) (name : String) (value : Setting) : Settings :=
  ⟨s.entries.put name value⟩

/-- The truth value with this name. -/
def bool? (s : Settings) (name : String) : Option Bool :=
  match s.get? name with
  | some (.bool b) => some b
  | _ => none

/-- The signed integer with this name. -/
def int64? (s : Settings) (name : String) : Option Int64 :=
  match s.get? name with
  | some (.int64 n) => some n
  | _ => none

/-- The unsigned integer with this name, or a signed one that is not negative. -/
def uint64? (s : Settings) (name : String) : Option UInt64 :=
  match s.get? name with
  | some (.uint64 n) => some n
  | some (.int64 n) => if 0 ≤ n then some n.toUInt64 else none
  | _ => none

/-- The text with this name. -/
def text? (s : Settings) (name : String) : Option String :=
  match s.get? name with
  | some (.text t) => some t
  | _ => none

/-- A value that is set is found under its name and changes no other. -/
theorem get?_set (s : Settings) (name other : String) (value : Setting) :
    (s.set name value).get? other = if other = name then some value else s.get? other :=
  Entries.lookup_put name other value s.entries

end Settings
end RecordSink
