import RecordSink.Config.Parameter
import RecordSink.Proofs.Results

/-! What a section can give to a parameter. Data has at most one meaning as a value of a type, which
is what is read of it; data without a meaning is refused with one complaint. Checks that go through a
list report the first element that has a property. -/
namespace RecordSink

/-! ## The first element with a property -/

section First

variable {α : Type} {P Q : α → Prop} {xs : List α} {x : α}

/-- The first element of a list that has the property. -/
def IsFirst (P : α → Prop) (xs : List α) (x : α) : Prop :=
  ∃ before after, xs = before ++ x :: after ∧ P x ∧ ∀ y ∈ before, ¬ P y

theorem not_isFirst_nil : ¬ IsFirst P [] x := by
  rintro ⟨before, after, split, -⟩
  cases before <;> cases split

theorem isFirst_cons {a : α} :
    IsFirst P (a :: xs) x ↔ P a ∧ x = a ∨ ¬ P a ∧ IsFirst P xs x := by
  constructor
  · rintro ⟨before, after, split, holds, earlier⟩
    cases before with
    | nil =>
      cases split
      exact .inl ⟨holds, rfl⟩
    | cons b before =>
      obtain ⟨rfl, rfl⟩ := List.cons.inj split
      exact .inr ⟨earlier _ (.head _), before, after, rfl, holds, fun y among =>
        earlier y (.tail _ among)⟩
  · rintro (⟨holds, rfl⟩ | ⟨fails, before, after, rfl, holds, earlier⟩)
    · exact ⟨[], xs, rfl, holds, nofun⟩
    · exact ⟨a :: before, after, rfl, holds, List.forall_mem_cons.2 ⟨fails, earlier⟩⟩

theorem exists_isFirst_iff : (∃ x, IsFirst P xs x) ↔ ∃ x ∈ xs, P x := by
  induction xs with
  | nil => simp [not_isFirst_nil]
  | cons a xs ih =>
    simp only [isFirst_cons, exists_or, exists_and_left, ih, List.exists_mem_cons_iff]
    by_cases holds : P a <;> simp [holds]

theorem IsFirst.holds (first : IsFirst P xs x) : P x := by
  obtain ⟨before, after, -, holds, -⟩ := first
  exact holds

theorem isFirst_congr (same : ∀ y ∈ xs, (P y ↔ Q y)) : IsFirst P xs x ↔ IsFirst Q xs x := by
  induction xs with
  | nil => simp [not_isFirst_nil]
  | cons a xs ih =>
    rw [List.forall_mem_cons] at same
    rw [isFirst_cons, isFirst_cons, ih same.2, same.1]

theorem isFirst_find?_iff {p : α → Bool} :
    xs.find? p = some x ↔ IsFirst (fun y => p y = true) xs x := by
  rw [List.find?_eq_some_iff_append]
  simp only [IsFirst, Bool.not_eq_true', Bool.not_eq_true]
  tauto

end First

/-! ## One value -/

/-- The type of the parameters that a value can be given to. -/
def Setting.type : Setting → ParameterType
  | .bool _ => .bool
  | .int64 _ => .int64
  | .uint64 _ => .uint64
  | .text _ => .text

/-- What data means as a value of a type. -/
inductive Json.Means : Json → ParameterType → Setting → Prop where
  | bool (b : Bool) : Means (.bool b) .bool (.bool b)
  | int64 (n : Int64) : Means (.int n.toInt) .int64 (.int64 n)
  | uint64 (n : UInt64) : Means (.int n.toNat) .uint64 (.uint64 n)
  | text (s : String) : Means (.string s) .text (.text s)

theorem Json.Means.type {data : Json} {type : ParameterType} {value : Setting}
    (means : data.Means type value) : value.type = type := by
  cases means <;> rfl

namespace Parameter

variable {p : Parameter} {data : Json} {value : Setting} {n : Int}

theorem signed?_eq_some_iff {i : Int64} : signed? n = some i ↔ n = i.toInt := by
  have least := i.le_toInt
  have largest := i.toInt_lt
  unfold signed?
  split
  · next fits =>
    rw [Option.some.injEq, ← Int64.toInt_inj, Int64.toInt_ofInt_of_le (by omega) (by omega)]
  · next wide =>
    simp only [reduceCtorEq, false_iff]
    rintro rfl
    omega

theorem unsigned?_eq_some_iff {u : UInt64} : unsigned? n = some u ↔ n = u.toNat := by
  have largest := u.toNat_lt
  unfold unsigned?
  split
  · next fits =>
    have small : n.toNat < UInt64.size := by
      rw [UInt64.size]
      omega
    rw [Option.some.injEq, ← UInt64.toNat_inj, UInt64.toNat_ofNat_of_lt' small]
    omega
  · next wide =>
    simp only [reduceCtorEq, false_iff]
    rintro rfl
    omega

theorem signed?_eq_none_iff : signed? n = none ↔
    ¬ (-0x8000000000000000 ≤ n ∧ n < 0x8000000000000000) := by
  unfold signed?
  split <;> simp_all

theorem unsigned?_eq_none_iff : unsigned? n = none ↔ ¬ (0 ≤ n ∧ n < 0x10000000000000000) := by
  unfold unsigned?
  split <;> simp_all

theorem means_of_read (given : p.read data = .ok value) : data.Means p.type value := by
  unfold read at given
  split at given
  · next type =>
    cases given
    rw [type]
    exact .bool _
  · next type =>
    cases given
    rw [type]
    exact .text _
  · next type =>
    split at given
    · next fits =>
      cases given
      rw [type, signed?_eq_some_iff.1 fits]
      exact .int64 _
    · cases given
  · next type =>
    split at given
    · next fits =>
      cases given
      rw [type, unsigned?_eq_some_iff.1 fits]
      exact .uint64 _
    · cases given
    · cases given
  · cases given

theorem read_int64 (type : p.type = .int64) : p.read (.int n) =
    match signed? n with
    | some n => .ok (.int64 n)
    | none => .error (.wrongType p.name p.type) := by
  obtain ⟨name, kind⟩ := p
  obtain rfl : kind = _ := type
  rfl

theorem read_uint64 (type : p.type = .uint64) : p.read (.int n) =
    match unsigned? n, signed? n with
    | some n, _ => .ok (.uint64 n)
    | none, some _ => .error (.negative p.name n)
    | none, none => .error (.wrongType p.name p.type) := by
  obtain ⟨name, kind⟩ := p
  obtain rfl : kind = _ := type
  rfl

theorem read_of_means (means : data.Means p.type value) : p.read data = .ok value := by
  generalize held : p.type = type at means
  cases means with
  | bool b =>
    unfold read
    rw [held]
  | text s =>
    unfold read
    rw [held]
  | int64 n =>
    have fits : signed? n.toInt = some n := signed?_eq_some_iff.2 rfl
    rw [read_int64 held, fits]
  | uint64 n =>
    have fits : unsigned? n.toNat = some n := unsigned?_eq_some_iff.2 rfl
    rw [read_uint64 held, fits]

/-- What is said of data that is no value of the parameter. -/
def complaint (p : Parameter) : Json → Problem
  | .int n =>
    if p.type = .uint64 ∧ -0x8000000000000000 ≤ n ∧ n < 0 then .negative p.name n
    else .wrongType p.name p.type
  | _ => .wrongType p.name p.type

theorem complaint_ne_unknown (p : Parameter) (data : Json) (name : String) :
    p.complaint data ≠ .unknownParameter name := by
  unfold complaint
  split
  · split <;> nofun
  · nofun

theorem read_error {problem : Problem} (refused : p.read data = .error problem) :
    problem = p.complaint data := by
  unfold read at refused
  split at refused
  · cases refused
  · cases refused
  · next n type =>
    split at refused <;> cases refused
    simp [complaint, type]
  · next n type =>
    split at refused
    · cases refused
    · next i small fits =>
      cases refused
      have least := i.le_toInt
      have largest := i.toInt_lt
      rw [signed?_eq_some_iff] at fits
      rw [unsigned?_eq_none_iff] at small
      rw [complaint, if_pos ⟨type, by omega, by omega⟩]
    · next small wide =>
      cases refused
      rw [signed?_eq_none_iff] at wide
      rw [complaint, if_neg (by omega)]
  · next bool text int64 uint64 =>
    cases refused
    unfold complaint
    split
    · next n => rw [if_neg fun negative => uint64 n negative.1 rfl]
    · rfl

/-- Data that is no value of the parameter is refused, and that is what is said of it. -/
theorem read_error_iff {problem : Problem} : p.read data = .error problem ↔
    (∀ value, ¬ data.Means p.type value) ∧ problem = p.complaint data := by
  constructor
  · intro refused
    refine ⟨fun value means => ?_, read_error refused⟩
    rw [read_of_means means] at refused
    cases refused
  · rintro ⟨meaningless, rfl⟩
    cases given : p.read data with
    | error problem => rw [read_error given]
    | ok value => exact absurd (means_of_read given) (meaningless value)

end Parameter
end RecordSink
