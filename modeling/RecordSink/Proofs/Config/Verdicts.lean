import RecordSink.Proofs.Config.Validation

/-! The verdict on a section: refused for a reason that is found by looking at the section and the
declarations alone, or settings that hold exactly what the section and the defaults say. Of several
undeclared names the least is reported, since objects have their members in order. -/
namespace RecordSink

/-! ## Objects in order -/

namespace Entries

variable {α : Type} {entries : Entries α} {name : String} {a : α}

/-- Entries in ascending order of their names, which is that of the bytes of the names. -/
def Ascending (entries : Entries α) : Prop :=
  entries.Pairwise fun a b => a.1 < b.1

theorem mem_sortedPut {entry : String × α} (held : entry ∈ sortedPut name a entries) :
    entry.1 = name ∨ entry ∈ entries := by
  induction entries with
  | nil =>
    rw [sortedPut, List.mem_singleton] at held
    exact .inl (congrArg Prod.fst held)
  | cons first rest ih =>
    rw [sortedPut] at held
    split at held
    · rcases List.mem_cons.1 held with rfl | later
      · exact .inl rfl
      · exact .inr (.tail _ later)
    · split at held
      · rcases List.mem_cons.1 held with rfl | later
        · exact .inl rfl
        · exact .inr later
      · rcases List.mem_cons.1 held with rfl | later
        · exact .inr (.head _)
        · exact (ih later).imp_right (.tail _)

theorem Ascending.sortedPut (ascending : Ascending entries) :
    Ascending (sortedPut name a entries) := by
  induction entries with
  | nil => exact List.pairwise_singleton _ _
  | cons first rest ih =>
    obtain ⟨below, later⟩ := List.pairwise_cons.1 ascending
    rw [Entries.sortedPut]
    split
    · next same => exact List.pairwise_cons.2 ⟨same ▸ below, later⟩
    · next other =>
      split
      · next less =>
        refine List.pairwise_cons.2 ⟨List.forall_mem_cons.2 ⟨less, fun entry among => ?_⟩, ascending⟩
        exact String.lt_trans less (below entry among)
      · next not_less =>
        refine List.pairwise_cons.2 ⟨fun entry held => ?_, ih later⟩
        rcases mem_sortedPut held with same | among
        · rw [same]
          exact Std.lt_of_le_of_ne not_less other
        · exact below entry among

theorem ascending_sorted (entries : Entries α) : Ascending (sorted entries) := by
  have each : ∀ done : Entries α, Ascending done →
      Ascending (entries.foldl (fun done entry => sortedPut entry.1 entry.2 done) done) := by
    induction entries with
    | nil => exact fun done ascending => ascending
    | cons first rest ih => exact fun done ascending => ih _ ascending.sortedPut
  exact each [] .nil

end Entries

/-- Data that is no object, or has its members in ascending order. -/
def Json.InOrder : Json → Prop
  | .object members => Entries.Ascending members
  | _ => True

/-- Every object is made in order. -/
theorem Json.inOrder_ofMembers (members : List (String × Json)) : (ofMembers members).InOrder :=
  Entries.ascending_sorted members

/-- What comes first of names in ascending order is the least. -/
theorem le_of_isFirst {P : String → Prop} {names : List String} {name other : String}
    (ascending : names.Pairwise (· < ·)) (first : IsFirst P names name) (among : other ∈ names)
    (holds : P other) : name ≤ other := by
  obtain ⟨before, after, rfl, -, fails⟩ := first
  obtain ⟨-, tail, -⟩ := List.pairwise_append.1 ascending
  rcases List.mem_append.1 among with earlier | later
  · exact absurd holds (fails other earlier)
  · rcases List.mem_cons.1 later with rfl | later
    · exact String.le_refl _
    · exact String.lt_asymm ((List.pairwise_cons.1 tail).1 other later)

namespace Settings

variable {section? : Option Json} {parameters : List Parameter} {members : List (String × Json)}
variable {name other : String}

theorem ascending_members (ordered : ∀ data, section? = some data → data.InOrder)
    (shape : members? section? = some members) : Entries.Ascending members := by
  cases section? with
  | none =>
    cases shape
    exact .nil
  | some data =>
    have inOrder := ordered data rfl
    cases data <;> cases shape
    exact inOrder

/-- The undeclared name that is reported is the least one. -/
theorem unknown_least (distinct : (parameters.map Parameter.name).Nodup)
    (ordered : ∀ data, section? = some data → data.InOrder)
    (failed : validate section? parameters = .error (.unknownParameter name))
    (shape : members? section? = some members) (among : other ∈ members.map Prod.fst)
    (undeclared : other ∉ parameters.map Parameter.name) : name ≤ other := by
  have ascending := List.pairwise_map.2 (ascending_members ordered shape)
  generalize reported : Problem.unknownParameter name = problem at failed
  cases refused_of_validate distinct failed with
  | unknown shape' first =>
    cases reported
    rw [shape] at shape'
    cases shape'
    exact le_of_isFirst ascending first among undeclared
  | @mistyped _ p data => exact absurd reported.symm (p.complaint_ne_unknown data name)
  | noTable => cases reported
  | missing => cases reported

/-- Validation fails exactly if something is wrong. -/
theorem validate_fails_iff (distinct : (parameters.map Parameter.name).Nodup) :
    (∃ problem, validate section? parameters = .error problem) ↔
      members? section? = none ∨ ∃ members, members? section? = some members ∧
        ((∃ name ∈ members.map Prod.fst, name ∉ parameters.map Parameter.name) ∨
          (∃ p ∈ parameters, p.Mistyped members) ∨ ∃ p ∈ parameters, p.Missing members) := by
  constructor
  · rintro ⟨problem, failed⟩
    cases refused_of_validate distinct failed with
    | noTable shape => exact .inl shape
    | unknown shape first =>
      exact .inr ⟨_, shape, .inl (exists_isFirst_iff.1 ⟨_, first⟩)⟩
    | mistyped shape declared first =>
      exact .inr ⟨_, shape, .inr (.inl (exists_isFirst_iff.1 ⟨_, first⟩))⟩
    | missing shape declared typed first =>
      exact .inr ⟨_, shape, .inr (.inr (exists_isFirst_iff.1 ⟨_, first⟩))⟩
  · intro wrong
    cases verdict : validate section? parameters with
    | error problem => exact ⟨problem, rfl⟩
    | ok s =>
      obtain ⟨members, shape, undeclared, given, read, complete⟩ := validate_ok_iff.1 verdict
      rw [shape] at wrong
      rcases wrong with untold | ⟨_, told, wrong⟩
      · cases untold
      cases told
      rcases wrong with ⟨name, among, other⟩ | ⟨p, among, mistyped⟩ | ⟨p, among, missing⟩
      · exact absurd (undeclared?_eq_none_iff.1 undeclared name among) other
      · exact absurd mistyped (typed_of_readMembers read p among)
      · exact absurd ((lacks_iff distinct read p among).2 missing)
          (filled_of_completed complete p among)

/-- **Validation is exact.** A section is refused exactly for the first thing that is wrong with it:
undeclared names count before values that are not of their type, and these before parameters that are
missing; the least undeclared name is reported, and the first parameter as they are declared.
Otherwise every parameter has the value that the section gives, or else its default, or else none,
and nothing else is set. Options come out of the settings of a store unless the schedule is neither
of the two, and they are what the settings hold. -/
theorem validate_exactly (section? : Option Json) (parameters : List Parameter)
    (distinct : (parameters.map Parameter.name).Nodup)
    (ordered : ∀ data, section? = some data → data.InOrder) :
    ((∃ problem, validate section? parameters = .error problem) ↔
      members? section? = none ∨ ∃ members, members? section? = some members ∧
        ((∃ name ∈ members.map Prod.fst, name ∉ parameters.map Parameter.name) ∨
          (∃ p ∈ parameters, p.Mistyped members) ∨ ∃ p ∈ parameters, p.Missing members)) ∧
    (∀ problem, validate section? parameters = .error problem ↔
      Refused section? parameters problem) ∧
    (∀ name, validate section? parameters = .error (.unknownParameter name) →
      ∀ members, members? section? = some members → ∀ other ∈ members.map Prod.fst,
        other ∉ parameters.map Parameter.name → name ≤ other) ∧
    (∀ s, validate section? parameters = .ok s → ∃ members, members? section? = some members ∧
      (∀ p ∈ parameters, p.SetTo members (s.get? p.name)) ∧
      ∀ name ∉ parameters.map Parameter.name, s.get? name = none) ∧
    ∀ s, validate section? Options.parameters = .ok s →
      ∃ tableName tablePrefix seconds keep schedule,
        s.get? "table_name" = some (.text tableName) ∧
        s.get? "table_prefix" = some (.text tablePrefix) ∧
        s.get? "cleanup_rate_secs" = some (.uint64 seconds) ∧
        s.get? "records_to_keep" = some (.uint64 keep) ∧
        s.get? "cleanup_schedule" = some (.text schedule) ∧
        (∀ which : Schedule, schedule = which.name →
          Options.ofSettings s = .ok ⟨tableName, tablePrefix, seconds.toNat * 1000, keep, which⟩) ∧
        (schedule ≠ "once" → schedule ≠ "recurring" →
          Options.ofSettings s = .error (.unknownSchedule schedule)) := by
  refine ⟨validate_fails_iff distinct, fun problem => validate_error_iff distinct,
    fun name failed members shape other among => unknown_least distinct ordered failed shape among,
    fun s valid => ?_, fun s valid => ?_⟩
  · obtain ⟨members, shape, set, others⟩ := get?_validate distinct valid
    exact ⟨members, shape, fun p among => (set p among).1, others⟩
  · obtain ⟨tableName, tablePrefix, seconds, keep, schedule, name, front, rate, rows, held, made⟩ :=
      Options.ofSettings_validated valid
    refine ⟨tableName, tablePrefix, seconds, keep, schedule, name, front, rate, rows, held, ?_, ?_⟩
    · rintro which rfl
      rw [made, Schedule.ofName_name]
      rfl
    · intro once recurring
      rw [made, Schedule.ofName, if_neg once, if_neg recurring]
      rfl

/-- Two values are not of their types; the one that is reported is declared first. -/
theorem first_declared_reported :
    validate (some (.object [("records_to_keep", .int (-1)), ("table_name", .int 5)]))
      Options.parameters = .error (.wrongType "table_name" .text) := by
  let members : List (String × Json) := [("records_to_keep", .int (-1)), ("table_name", .int 5)]
  have ordered : Json.InOrder (.object members) := by
    unfold Json.InOrder Entries.Ascending
    decide +kernel
  obtain ⟨-, verdict, -⟩ := validate_exactly (some (.object members)) Options.parameters
    Options.parameters_distinct fun data same => Option.some.inj same ▸ ordered
  have declared : ∀ name ∈ members.map Prod.fst,
      name ∈ Options.parameters.map Parameter.name := by decide
  let tableName : Parameter := .declare "table_name" .text .reload none
    "Name of the table records are stored in (without prefix)"
  have refused : tableName.read (.int 5) = .error (.wrongType "table_name" .text) := rfl
  have mistyped : tableName.Mistyped members :=
    ⟨.int 5, rfl, (Parameter.read_error_iff.1 refused).1⟩
  have first : IsFirst (Parameter.Mistyped members) Options.parameters tableName :=
    ⟨[], _, rfl, mistyped, nofun⟩
  exact (verdict _).2 (.mistyped rfl declared first rfl)

end Settings
end RecordSink
