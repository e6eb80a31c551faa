import RecordSink.Text.Ascii
/-!
Faults that are injected for testing: for each verb, how many of the next operations with that verb
fail. Besides the verbs of statements there are `CONNECT`, `METADATA` and `COMMIT`. Injections stand
in the order in which they were made. The oldest one of a verb that has faults left strikes, and one
that has none left stays where it is.
-/
namespace RecordSink

/-- Faults that were injected, those that have struck already among them. -/
structure Faults where
  /-- The verb of each injection and how many of its faults are left, oldest first. -/
  injections : List (String × Nat)
  deriving DecidableEq, Repr

namespace Faults

/-- No faults. -/
def none : Faults :=
  ⟨[]⟩

/-- How many faults of a verb are left of injections. -/
def left (verb : String) : List (String × Nat) → Nat
  | [] => 0
  | (v, n) :: later => (if v = verb then n else 0) + left verb later

/-- The number of pending faults of a verb. -/
def pending (f : Faults) (verb : String) : Nat :=
  left verb f.injections

/-- More faults of a verb, which is given in any case. -/
def inject (f : Faults) (verb : String) (n : Nat) : Faults :=
  ⟨f.injections ++ [(Text.upper verb, n)]⟩

/-- The injections with one fault fewer at the first that has any left for this verb, if there is
one. -/
def useUp? (verb : String) : List (String × Nat) → Option (List (String × Nat))
  | [] => Option.none
  | (v, n) :: later =>
    if v = verb ∧ 0 < n then some ((v, n - 1) :: later)
    else (useUp? verb later).map ((v, n) :: ·)

/-- The faults that are left after one of this verb strikes, if there is one. -/
def strike? (f : Faults) (verb : String) : Option Faults :=
  (useUp? verb f.injections).map Faults.mk

private theorem left_append (verb : String) (first rest : List (String × Nat)) :
    left verb (first ++ rest) = left verb first + left verb rest := by
  induction first with
  | nil => exact (Nat.zero_add _).symm
  | cons entry later ih =>
    obtain ⟨v, n⟩ := entry
    rw [List.cons_append, left, left, ih, Nat.add_assoc]

/-- Injected faults add up by verb. -/
theorem pending_inject (f : Faults) (verb other : String) (n : Nat) :
    (f.inject verb n).pending other =
      f.pending other + if other = Text.upper verb then n else 0 := by
  simp only [pending, inject, left_append, left, eq_comm (a := other), Nat.add_zero]

private theorem useUp?_eq_none_iff (verb : String) (injections : List (String × Nat)) :
    useUp? verb injections = Option.none ↔ left verb injections = 0 := by
  induction injections with
  | nil => exact iff_of_true rfl rfl
  | cons entry later ih =>
    obtain ⟨v, n⟩ := entry
    rw [useUp?, left]
    by_cases strikes : v = verb ∧ 0 < n
    · rw [if_pos strikes, if_pos strikes.1]
      simp [Nat.ne_of_gt strikes.2]
    · have spent : (if v = verb then n else 0) = 0 := by
        split
        · next same => exact Nat.eq_zero_of_not_pos fun some_left => strikes ⟨same, some_left⟩
        · rfl
      rw [if_neg strikes, Option.map_eq_none_iff, ih, spent, Nat.zero_add]

/-- No fault strikes exactly when none of the verb is pending. -/
theorem strike?_eq_none_iff (f : Faults) (verb : String) :
    f.strike? verb = Option.none ↔ f.pending verb = 0 := by
  rw [strike?, Option.map_eq_none_iff, useUp?_eq_none_iff, pending]

private theorem left_of_useUp? {injections rest : List (String × Nat)} {verb : String}
    (h : useUp? verb injections = some rest) (other : String) :
    left other rest + (if other = verb then 1 else 0) = left other injections := by
  induction injections generalizing rest with
  | nil => cases h
  | cons entry later ih =>
    obtain ⟨v, n⟩ := entry
    rw [useUp?] at h
    by_cases strikes : v = verb ∧ 0 < n
    · rw [if_pos strikes, Option.some.injEq] at h
      obtain ⟨rfl, some_left⟩ := strikes
      rw [← h, left, left]
      by_cases same : v = other
      · simp only [if_pos same, if_pos same.symm]
        omega
      · simp only [if_neg same, if_neg (Ne.symm same), Nat.add_zero]
    · rw [if_neg strikes, Option.map_eq_some_iff] at h
      obtain ⟨rest, used, rfl⟩ := h
      rw [left, left, ← ih used, Nat.add_assoc]

/-- A fault that strikes takes one from its verb and nothing from the others. -/
theorem pending_of_strike? {f g : Faults} {verb : String} (h : f.strike? verb = some g)
    (other : String) :
    g.pending other + (if other = verb then 1 else 0) = f.pending other := by
  obtain ⟨rest, used, rfl⟩ := Option.map_eq_some_iff.1 h
  exact left_of_useUp? used other

end Faults
end RecordSink
