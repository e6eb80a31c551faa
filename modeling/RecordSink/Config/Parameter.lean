import RecordSink.Config.Problem
import RecordSink.Config.Settings
import RecordSink.Json.Basic
/-!
Declared parameters and the validation of a section against them. Undeclared names are refused
first, then values of the wrong type, then missing values; each check goes through its names in
order and reports the first that fails.
-/
namespace RecordSink

/-- When a parameter can be changed. -/
inductive ParameterContext where
  /-- By a restart only. -/
  | restart
  /-- By a reload. -/
  | reload
  deriving DecidableEq, Repr

/-- The declaration of a parameter. -/
structure Parameter where
  /-- The name. -/
  name : String
  /-- The type of its values. -/
  type : ParameterType
  /-- When it can be changed. -/
  context : ParameterContext
  /-- Whether a section without it is refused, if it has no default. -/
  required : Bool
  /-- The value that it has if the section does not say. -/
  default : Option Setting
  /-- What it is for. -/
  description : String
  deriving DecidableEq, Repr

namespace Parameter

/-- The declaration of a parameter that is required exactly if it has no default. -/
def declare (name : String) (type : ParameterType) (context : ParameterContext)
    (default : Option Setting) (description : String) : Parameter :=
  ⟨name, type, context, default.isNone, default, description⟩

/-- The integer as a signed one, if 64 bits suffice. -/
def signed? (n : Int) : Option Int64 :=
  if -0x8000000000000000 ≤ n ∧ n < 0x8000000000000000 then some (Int64.ofInt n) else none

/-- The integer as an unsigned one, if 64 bits suffice. -/
def unsigned? (n : Int) : Option UInt64 :=
  if 0 ≤ n ∧ n < 0x10000000000000000 then some (UInt64.ofNat n.toNat) else none

/-- The value of a parameter as the section gives it. -/
def read (p : Parameter) (data : Json) : Except Problem Setting :=
  match p.type, data with
  | .bool, .bool b => .ok (.bool b)
  | .text, .string s => .ok (.text s)
  | .int64, .int n =>
    match signed? n with
    | some n => .ok (.int64 n)
    | none => .error (.wrongType p.name p.type)
  | .uint64, .int n =>
    match unsigned? n, signed? n with
    | some n, _ => .ok (.uint64 n)
    | none, some _ => .error (.negative p.name n)
    | none, none => .error (.wrongType p.name p.type)
  | type, _ => .error (.wrongType p.name type)

end Parameter

namespace Settings

/-- The first name of the section that no parameter has. -/
def undeclared? (parameters : List Parameter) (members : List (String × Json)) : Option String :=
  (members.map Prod.fst).find? fun name => !parameters.any fun p => p.name == name

/-- The values that the section gives to the parameters. -/
def readMembers (members : List (String × Json)) :
    List Parameter → Settings → Except Problem Settings
  | [], given => .ok given
  | p :: rest, given =>
    match members.lookup p.name with
    | none => readMembers members rest given
    | some data => do readMembers members rest (given.set p.name (← p.read data))

/-- The values that a section gives to the parameters; there may be no section. -/
def ofSection (section? : Option Json) (parameters : List Parameter) : Except Problem Settings :=
  match section? with
  | none => .ok empty
  | some (.object members) =>
    match undeclared? parameters members with
    | some name => .error (.unknownParameter name)
    | none => readMembers members parameters empty
  | some _ => .error .noTable

/-- The settings with every parameter that was not given at its default. -/
def completed (given : Settings) : List Parameter → Settings → Except Problem Settings
  | [], done => .ok done
  | p :: rest, done =>
    match given.get? p.name, p.default with
    | some value, _ => completed given rest (done.set p.name value)
    | none, some value => completed given rest (done.set p.name value)
    | none, none =>
      if p.required then .error (.missingParameter p.name p.description)
      else completed given rest done

/-- The settings that a section makes, validated and completed. -/
def validate (section? : Option Json) (parameters : List Parameter) : Except Problem Settings := do
  completed (← ofSection section? parameters) parameters empty

/-- Checks that no parameter differs that a reload cannot change. -/
def checkReload (running new : Settings) (parameters : List Parameter) : Except Problem Unit :=
  match parameters.find? fun p =>
    p.context == .restart && running.get? p.name != new.get? p.name with
  | some p => .error (.needsRestart p.name)
  | none => .ok ()

end Settings
end RecordSink
