import RecordSink.Toml.Basic

/-! Data compared with itself. Floats compare as numbers, so a float that is not a number differs
from itself, and so does everything that it occurs in. Nothing else does. -/
namespace RecordSink.Toml

mutual

/-- Whether a float that is not a number occurs in the data. -/
def hasNaN : Toml → Bool
  | float d => d.isNaN
  | array items => hasNaNItems items
  | table members => hasNaNMembers members
  | _ => false

/-- Whether a float that is not a number occurs in the items. -/
def hasNaNItems : List Toml → Bool
  | [] => false
  | item :: rest => item.hasNaN || hasNaNItems rest

/-- Whether a float that is not a number occurs in the members. -/
def hasNaNMembers : List (String × Toml) → Bool
  | [] => false
  | (_, value) :: rest => value.hasNaN || hasNaNMembers rest

end

mutual

theorem same_self (v : Toml) : v.same v = !v.hasNaN := by
  cases v with
  | float d => exact d.equals_self
  | array items => exact sameItems_self items
  | table members => exact sameMembers_self members
  | string s => simp [same, hasNaN]
  | int n => simp [same, hasNaN]
  | bool b => simp [same, hasNaN]
  | moment m => simp [same, hasNaN]

theorem sameItems_self (items : List Toml) : sameItems items items = !hasNaNItems items := by
  cases items with
  | nil => rfl
  | cons item rest =>
    rw [sameItems, hasNaNItems, same_self item, sameItems_self rest, Bool.not_or]

theorem sameMembers_self (members : List (String × Toml)) :
    sameMembers members members = !hasNaNMembers members := by
  cases members with
  | nil => rfl
  | cons member rest =>
    obtain ⟨name, value⟩ := member
    rw [sameMembers, hasNaNMembers, same_self value, sameMembers_self rest, beq_self_eq_true,
      Bool.true_and, Bool.not_or]

end

/-- A section is the same as itself exactly if all its floats are numbers. -/
theorem sameSections_self (section? : Option Toml) :
    sameSections section? section? = !section?.any hasNaN := by
  cases section? with
  | none => rfl
  | some data => exact same_self data

end RecordSink.Toml
