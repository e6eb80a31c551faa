/-!
The first element of a list that repeats an earlier one. Records reject repeated field names and
tables repeated column names, and both report the first repetition.
-/
namespace RecordSink

/-- The first element that is in `seen` or occurs before itself. -/
def firstRepeated [DecidableEq α] (seen : List α) : List α → Option α
  | [] => none
  | x :: xs => if x ∈ seen then some x else firstRepeated (x :: seen) xs

theorem firstRepeated_eq_none_iff [DecidableEq α] {seen xs : List α} :
    firstRepeated seen xs = none ↔ xs.Nodup ∧ ∀ x ∈ xs, x ∉ seen := by
  induction xs generalizing seen with
  | nil => simp [firstRepeated]
  | cons x xs ih =>
    by_cases h : x ∈ seen
    · simp [firstRepeated, h]
    · simp only [firstRepeated, h, if_false, ih, List.nodup_cons, List.mem_cons]
      grind

/-- Nothing repeats exactly in a list without duplicates. -/
theorem firstRepeated_nil_eq_none_iff [DecidableEq α] {xs : List α} :
    firstRepeated [] xs = none ↔ xs.Nodup := by
  simp [firstRepeated_eq_none_iff]

end RecordSink
