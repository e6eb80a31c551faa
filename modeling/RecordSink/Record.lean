import RecordSink.Distinct
import RecordSink.Value
/-!
Records: named values in order, no name twice. The order of the fields is the order of the columns
in the statements that store a record.
-/
namespace RecordSink

/-- Values by name, of fields or of columns, in order. -/
abbrev NamedValues := List (String × Value)

/-- Named values in order, with distinct names. -/
structure Record where
  /-- The fields, first to last. -/
  fields : NamedValues
  /-- No name occurs twice. -/
  nodup : (fields.map Prod.fst).Nodup
  deriving DecidableEq

namespace Record

/-- The record with these fields, or the first name that repeats an earlier one. -/
def ofFields (fields : NamedValues) : Except String Record :=
  match h : firstRepeated [] (fields.map Prod.fst) with
  | some name => .error name
  | none => .ok ⟨fields, firstRepeated_nil_eq_none_iff.1 h⟩

/-- The value of the field with this name. -/
def get? (r : Record) (name : String) : Option Value :=
  r.fields.lookup name

/-- The number of fields. -/
def size (r : Record) : Nat :=
  r.fields.length

/-- A record without fields. -/
def isEmpty (r : Record) : Bool :=
  r.fields.isEmpty

theorem ofFields_fields (r : Record) : ofFields r.fields = .ok r := by
  unfold ofFields
  split
  · rename_i name h
    rw [firstRepeated_nil_eq_none_iff.2 r.nodup] at h
    cases h
  · rfl

end Record
end RecordSink
