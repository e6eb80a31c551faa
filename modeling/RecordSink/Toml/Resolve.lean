import RecordSink.Entries
import RecordSink.Toml.Basic
import RecordSink.Toml.Calendar
/-!
Resolution. The members of a document stand for data once moments that are written as tables are
moments, and tables are in ascending order. A table is a moment if its first member bears the name that
moments have in JSON: this member must be a string that spells the moment, and what follows it counts
for nothing.
-/
namespace RecordSink.Toml

/-- The first member of a table that is a moment. -/
def momentMember? : List (String × Toml) → Option Toml
  | (name, v) :: _ => if name = momentName then some v else none
  | [] => none

/-- The moment that a value spells. -/
def moment? : Toml → Option Moment
  | string s => Moment.ofText? s
  | _ => none

mutual

/-- The data that a value stands for, if all moments in it can be made out. -/
def resolve : Toml → Option Toml
  | array items => do return array (← resolveItems items)
  | table members =>
    match momentMember? members with
    | some v => do return moment (← moment? v)
    | none => do return table (Entries.sorted (← resolveMembers members))
  | v => some v

/-- The data that items stand for. -/
def resolveItems : List Toml → Option (List Toml)
  | [] => some []
  | item :: rest => do return (← item.resolve) :: (← resolveItems rest)

/-- The data that members stand for. -/
def resolveMembers : List (String × Toml) → Option (List (String × Toml))
  | [] => some []
  | (name, value) :: rest => do return (name, ← value.resolve) :: (← resolveMembers rest)

end

/-- The data under a name of the top level, which may be absent. -/
def dataAt? (name : String) (members : List (String × Toml)) : Option (Option Toml) :=
  (members.lookup name).mapM resolve

end RecordSink.Toml
