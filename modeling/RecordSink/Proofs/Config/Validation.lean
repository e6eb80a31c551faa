import Mathlib.Data.List.Nodup
import RecordSink.Config.Configuration
import RecordSink.Proofs.Config.Values

/-! The validation of a section, step by step. It fails at the first value that is not of its type,
and if there is none, at the first parameter that is missing; otherwise every parameter is set to
what the section gives, or else to its default, and nothing else is set. So options come out of the
settings of a store unless the schedule has a name that no schedule bears. -/
namespace RecordSink

namespace Parameter

variable {members : List (String × Json)} {p : Parameter}

/-- The section gives the parameter a value that is not of its type. -/
def Mistyped (members : List (String × Json)) (p : Parameter) : Prop :=
  ∃ data, members.lookup p.name = some data ∧ ∀ value, ¬ data.Means p.type value

/-- The section lacks the parameter, which has no default and is required. -/
def Missing (members : List (String × Json)) (p : Parameter) : Prop :=
  members.lookup p.name = none ∧ p.default = none ∧ p.required = true

/-- The parameter is not among those that are given, has no default and is required. -/
def Lacks (given : Settings) (p : Parameter) : Prop :=
  given.get? p.name = none ∧ p.default = none ∧ p.required = true

/-- What the parameter is set to: what the section gives, or else its default. -/
def SetTo (members : List (String × Json)) (p : Parameter) (value? : Option Setting) : Prop :=
  match members.lookup p.name with
  | some data => ∃ value, value? = some value ∧ data.Means p.type value
  | none => value? = p.default

end Parameter

namespace Settings

variable {members : List (String × Json)} {parameters : List Parameter}
variable {given done result : Settings} {problem : Problem}

/-- Reading the values of a section fails at the first one that is not of its type. -/
theorem readMembers_error_iff : readMembers members parameters given = .error problem ↔
    ∃ p data, IsFirst (Parameter.Mistyped members) parameters p ∧
      members.lookup p.name = some data ∧ problem = p.complaint data := by
  induction parameters generalizing given with
  | nil => simp [readMembers, not_isFirst_nil]
  | cons p rest ih =>
    rw [readMembers]
    simp only [isFirst_cons]
    cases held : members.lookup p.name with
    | none =>
      have fine : ¬ p.Mistyped members := by
        rintro ⟨data, there, -⟩
        rw [held] at there
        cases there
      simp only [fine, false_and, not_false_eq_true, true_and, false_or, ih]
    | some data =>
      cases read : p.read data with
      | error first =>
        obtain ⟨meaningless, rfl⟩ := Parameter.read_error_iff.1 read
        have mistyped : p.Mistyped members := ⟨data, held, meaningless⟩
        simp only [read, error_bind, Except.error.injEq, mistyped, true_and, not_true, false_and, or_false]
        constructor
        · rintro rfl
          exact ⟨p, data, rfl, held, rfl⟩
        · rintro ⟨q, data', rfl, held', rfl⟩
          rw [held] at held'
          cases held'
          rfl
      | ok value =>
        have fine : ¬ p.Mistyped members := by
          rintro ⟨data', there, meaningless⟩
          rw [held] at there
          cases there
          exact meaningless value (Parameter.means_of_read read)
        simp only [read, ok_bind, fine, false_and, not_false_eq_true, true_and, false_or, ih]

theorem typed_of_readMembers (read : readMembers members parameters given = .ok result) :
    ∀ p ∈ parameters, ¬ p.Mistyped members := by
  intro p among mistyped
  obtain ⟨first, found⟩ := exists_isFirst_iff.2 ⟨p, among, mistyped⟩
  obtain ⟨data, held, -⟩ := found.holds
  rw [readMembers_error_iff.2 ⟨first, data, found, held, rfl⟩] at read
  cases read

/-- What is read of a section. -/
theorem get?_readMembers (distinct : (parameters.map Parameter.name).Nodup)
    (read : readMembers members parameters given = .ok result) :
    (∀ p ∈ parameters, ∀ data, members.lookup p.name = some data →
      ∃ value, result.get? p.name = some value ∧ data.Means p.type value) ∧
    ∀ name, (∀ p ∈ parameters, p.name = name → members.lookup name = none) →
      result.get? name = given.get? name := by
  induction parameters generalizing given with
  | nil =>
    cases read
    exact ⟨nofun, fun _ _ => rfl⟩
  | cons p rest ih =>
    rw [List.map_cons, List.nodup_cons] at distinct
    rw [readMembers] at read
    split at read
    · next absent =>
      obtain ⟨set, kept⟩ := ih distinct.2 read
      refine ⟨List.forall_mem_cons.2 ⟨fun data held => ?_, set⟩, fun name missing =>
        kept name fun q among => missing q (.tail _ among)⟩
      rw [absent] at held
      cases held
    · next data held =>
      obtain ⟨value, here, later⟩ := bind_ok_iff.1 read
      obtain ⟨set, kept⟩ := ih distinct.2 later
      refine ⟨List.forall_mem_cons.2 ⟨fun data' held' => ?_, set⟩, fun name missing => ?_⟩
      · rw [held] at held'
        cases held'
        refine ⟨value, ?_, Parameter.means_of_read here⟩
        -- No later parameter has this name, so the value is not replaced.
        rw [kept p.name fun q among same => absurd (List.mem_map.2 ⟨q, among, same⟩) distinct.1,
          get?_set, if_pos rfl]
      · rw [kept name fun q among => missing q (.tail _ among), get?_set, if_neg]
        rintro rfl
        rw [missing p (.head _) rfl] at held
        cases held

/-- Completing fails at the first parameter that is not given, has no default and is required. -/
theorem completed_error_iff : completed given parameters done = .error problem ↔
    ∃ p, IsFirst (Parameter.Lacks given) parameters p ∧
      problem = .missingParameter p.name p.description := by
  induction parameters generalizing done with
  | nil => simp [completed, not_isFirst_nil]
  | cons p rest ih =>
    rw [completed]
    simp only [isFirst_cons, Parameter.Lacks]
    cases here : given.get? p.name with
    | some value => simp [ih]
    | none =>
      cases default : p.default with
      | some value => simp [ih]
      | none =>
        cases required : p.required with
        | false => simp [ih]
        | true =>
          simp only [if_true, Except.error.injEq, and_self, true_and, not_true, false_and, or_false,
            exists_eq_left]
          exact eq_comm

theorem filled_of_completed (complete : completed given parameters done = .ok result) :
    ∀ p ∈ parameters, ¬ p.Lacks given := by
  intro p among lacks
  obtain ⟨first, found⟩ := exists_isFirst_iff.2 ⟨p, among, lacks⟩
  rw [completed_error_iff.2 ⟨first, found, rfl⟩] at complete
  cases complete

/-- What the completed settings hold. -/
theorem get?_completed (distinct : (parameters.map Parameter.name).Nodup)
    (fresh : ∀ p ∈ parameters, done.get? p.name = none)
    (complete : completed given parameters done = .ok result) :
    (∀ p ∈ parameters, result.get? p.name = (given.get? p.name).or p.default) ∧
    ∀ name ∉ parameters.map Parameter.name, result.get? name = done.get? name := by
  induction parameters generalizing done with
  | nil =>
    cases complete
    exact ⟨nofun, fun _ _ => rfl⟩
  | cons p rest ih =>
    rw [List.map_cons, List.nodup_cons] at distinct
    rw [List.forall_mem_cons] at fresh
    have apart : ∀ q ∈ rest, q.name ≠ p.name := fun q among same =>
      distinct.1 (List.mem_map.2 ⟨q, among, same⟩)
    -- A value that is set now is not set again.
    have set : ∀ value, (given.get? p.name).or p.default = some value →
        completed given rest (done.set p.name value) = .ok result →
        (∀ q ∈ p :: rest, result.get? q.name = (given.get? q.name).or q.default) ∧
        ∀ name ∉ (p :: rest).map Parameter.name, result.get? name = done.get? name := by
      intro value here later
      have fresh' : ∀ q ∈ rest, (done.set p.name value).get? q.name = none := by
        intro q among
        rw [get?_set, if_neg (apart q among)]
        exact fresh.2 q among
      obtain ⟨others, kept⟩ := ih distinct.2 fresh' later
      refine ⟨List.forall_mem_cons.2 ⟨?_, others⟩, fun name undeclared => ?_⟩
      · rw [kept p.name distinct.1, get?_set, if_pos rfl, here]
      · rw [List.map_cons, List.mem_cons, not_or] at undeclared
        rw [kept name undeclared.2, get?_set, if_neg undeclared.1]
    rw [completed] at complete
    split at complete
    · next value found => exact set value (by rw [found]; rfl) complete
    · next value missing found => exact set value (by rw [missing, found]; rfl) complete
    · next missing none_found =>
      split at complete
      · cases complete
      · obtain ⟨others, kept⟩ := ih distinct.2 fresh.2 complete
        refine ⟨List.forall_mem_cons.2 ⟨?_, others⟩, fun name undeclared => ?_⟩
        · rw [kept p.name distinct.1, fresh.1, missing, none_found]
          rfl
        · exact kept name fun among => undeclared (.tail _ among)

/-! ## Whole sections -/

/-- The members of a section. Without a section there are none; other data than an object has no
members that could be told. -/
def members? : Option Json → Option (List (String × Json))
  | none => some []
  | some (.object members) => some members
  | some _ => none

/-- Without members nothing is read. -/
theorem readMembers_nil (parameters : List Parameter) (given : Settings) :
    readMembers [] parameters given = .ok given := by
  induction parameters with
  | nil => rfl
  | cons p rest ih => exact ih

theorem ofSection_eq (section? : Option Json) (parameters : List Parameter) :
    ofSection section? parameters = match members? section? with
      | none => .error .noTable
      | some members =>
        match undeclared? parameters members with
        | some name => .error (.unknownParameter name)
        | none => readMembers members parameters empty := by
  cases section? with
  | none => exact (readMembers_nil parameters empty).symm
  | some data => cases data <;> rfl

theorem any_name_iff {name : String} :
    (parameters.any fun p => p.name == name) = true ↔ name ∈ parameters.map Parameter.name := by
  simp only [List.any_eq_true, beq_iff_eq, List.mem_map]

theorem undeclared?_eq_some_iff {name : String} : undeclared? parameters members = some name ↔
    IsFirst (· ∉ parameters.map Parameter.name) (members.map Prod.fst) name := by
  rw [undeclared?, isFirst_find?_iff]
  apply isFirst_congr
  intro other _
  rw [Bool.not_eq_true', ← Bool.not_eq_true, any_name_iff]

theorem undeclared?_eq_none_iff : undeclared? parameters members = none ↔
    ∀ name ∈ members.map Prod.fst, name ∈ parameters.map Parameter.name := by
  rw [undeclared?, List.find?_eq_none]
  simp only [Bool.not_eq_true', Bool.not_eq_false, any_name_iff]

/-- A section passes if all its names are declared, and what is read of it can be completed. -/
theorem validate_ok_iff {section? : Option Json} : validate section? parameters = .ok result ↔
    ∃ members, members? section? = some members ∧ undeclared? parameters members = none ∧
      ∃ given, readMembers members parameters empty = .ok given ∧
        completed given parameters empty = .ok result := by
  rw [validate, bind_ok_iff, ofSection_eq]
  cases shape : members? section? with
  | none => simp
  | some members => cases undeclared : undeclared? parameters members <;> simp [undeclared]

/-- What is given is what the section has members for. -/
theorem given_eq_none_iff (distinct : (parameters.map Parameter.name).Nodup)
    (read : readMembers members parameters empty = .ok given) {p : Parameter}
    (among : p ∈ parameters) : given.get? p.name = none ↔ members.lookup p.name = none := by
  obtain ⟨set, kept⟩ := get?_readMembers distinct read
  constructor
  · intro missing
    cases held : members.lookup p.name with
    | none => rfl
    | some data =>
      obtain ⟨value, here, -⟩ := set p among data held
      rw [missing] at here
      cases here
  · intro absent
    rw [kept p.name fun _ _ _ => absent]
    rfl

theorem lacks_iff (distinct : (parameters.map Parameter.name).Nodup)
    (read : readMembers members parameters empty = .ok given) :
    ∀ p ∈ parameters, p.Lacks given ↔ p.Missing members := fun _ among =>
  and_congr_left fun _ => given_eq_none_iff distinct read among

/-- **What validated settings hold.** Every parameter is set to what the section gives, or else to
its default, which is not left out where it is required, and no other name is set. -/
theorem get?_validate (distinct : (parameters.map Parameter.name).Nodup) {section? : Option Json}
    (valid : validate section? parameters = .ok result) :
    ∃ members, members? section? = some members ∧
      (∀ p ∈ parameters, p.SetTo members (result.get? p.name) ∧ ¬ p.Missing members) ∧
      ∀ name ∉ parameters.map Parameter.name, result.get? name = none := by
  obtain ⟨members, shape, -, given, read, complete⟩ := validate_ok_iff.1 valid
  obtain ⟨filled, others⟩ := get?_completed distinct (fun _ _ => rfl) complete
  have there := fun p among =>
    mt (lacks_iff distinct read p among).2 (filled_of_completed complete p among)
  refine ⟨members, shape, fun p among => ⟨?_, there p among⟩, others⟩
  rw [filled p among, Parameter.SetTo]
  cases held : members.lookup p.name with
  | none =>
    rw [(given_eq_none_iff distinct read among).2 held]
    rfl
  | some data =>
    obtain ⟨value, here, means⟩ := (get?_readMembers distinct read).1 p among data held
    rw [here]
    exact ⟨value, rfl, means⟩

/-- Why a section is refused: it is no object; or else it has a name that is not declared, and this
is the first; or else it gives a parameter what is no value of its type, and this is the first
parameter that it does so; or else it lacks a parameter, and this is the first. -/
inductive Refused (section? : Option Json) (parameters : List Parameter) : Problem → Prop where
  | noTable (shape : members? section? = none) : Refused section? parameters .noTable
  | unknown {members : List (String × Json)} {name : String}
      (shape : members? section? = some members)
      (first : IsFirst (· ∉ parameters.map Parameter.name) (members.map Prod.fst) name) :
      Refused section? parameters (.unknownParameter name)
  | mistyped {members : List (String × Json)} {p : Parameter} {data : Json}
      (shape : members? section? = some members)
      (declared : ∀ name ∈ members.map Prod.fst, name ∈ parameters.map Parameter.name)
      (first : IsFirst (Parameter.Mistyped members) parameters p)
      (held : members.lookup p.name = some data) :
      Refused section? parameters (p.complaint data)
  | missing {members : List (String × Json)} {p : Parameter}
      (shape : members? section? = some members)
      (declared : ∀ name ∈ members.map Prod.fst, name ∈ parameters.map Parameter.name)
      (typed : ∀ p ∈ parameters, ¬ p.Mistyped members)
      (first : IsFirst (Parameter.Missing members) parameters p) :
      Refused section? parameters (.missingParameter p.name p.description)

theorem refused_of_validate (distinct : (parameters.map Parameter.name).Nodup)
    {section? : Option Json} (failed : validate section? parameters = .error problem) :
    Refused section? parameters problem := by
  rw [validate, ofSection_eq] at failed
  cases shape : members? section? with
  | none =>
    rw [shape] at failed
    cases failed
    exact .noTable shape
  | some members =>
    rw [shape] at failed
    dsimp only at failed
    cases undeclared : undeclared? parameters members with
    | some name =>
      rw [undeclared] at failed
      cases failed
      exact .unknown shape (undeclared?_eq_some_iff.1 undeclared)
    | none =>
      have declared := undeclared?_eq_none_iff.1 undeclared
      rw [undeclared] at failed
      dsimp only at failed
      cases read : readMembers members parameters empty with
      | error first =>
        rw [read] at failed
        cases failed
        obtain ⟨p, data, first, held, rfl⟩ := readMembers_error_iff.1 read
        exact .mistyped shape declared first held
      | ok given =>
        rw [read, ok_bind] at failed
        obtain ⟨p, first, rfl⟩ := completed_error_iff.1 failed
        exact .missing shape declared (typed_of_readMembers read)
          ((isFirst_congr (lacks_iff distinct read)).1 first)

theorem validate_of_refused (distinct : (parameters.map Parameter.name).Nodup)
    {section? : Option Json} (refused : Refused section? parameters problem) :
    validate section? parameters = .error problem := by
  rw [validate, ofSection_eq]
  cases refused with
  | noTable shape =>
    rw [shape]
    rfl
  | unknown shape first =>
    rw [shape]
    simp only [undeclared?_eq_some_iff.2 first, error_bind]
  | mistyped shape declared first held =>
    rw [shape]
    simp only [undeclared?_eq_none_iff.2 declared,
      readMembers_error_iff.2 ⟨_, _, first, held, rfl⟩, error_bind]
  | @missing members p shape declared typed first =>
    rw [shape]
    simp only [undeclared?_eq_none_iff.2 declared]
    -- Nothing is mistyped, so everything can be read, and it is completing that fails.
    cases read : readMembers members parameters empty with
    | error problem =>
      obtain ⟨q, data, mistyped, -⟩ := readMembers_error_iff.1 read
      exact absurd (exists_isFirst_iff.1 ⟨q, mistyped⟩) (by simpa using typed)
    | ok given =>
      have lacks := (isFirst_congr (lacks_iff distinct read)).2 first
      rw [ok_bind, completed_error_iff.2 ⟨p, lacks, rfl⟩]

/-- Validation fails exactly for these reasons, and reports them. -/
theorem validate_error_iff (distinct : (parameters.map Parameter.name).Nodup)
    {section? : Option Json} :
    validate section? parameters = .error problem ↔ Refused section? parameters problem :=
  ⟨refused_of_validate distinct, validate_of_refused distinct⟩

/-- A parameter that is required or has a default has a value, and it is one of its type. -/
theorem validate_sets (distinct : (parameters.map Parameter.name).Nodup)
    (defaults : ∀ p ∈ parameters, ∀ value, p.default = some value → value.type = p.type)
    {section? : Option Json} (valid : validate section? parameters = .ok result) :
    ∀ p ∈ parameters, p.required ∨ p.default.isSome →
      ∃ value, result.get? p.name = some value ∧ value.type = p.type := by
  intro p among needed
  obtain ⟨members, shape, set, -⟩ := get?_validate distinct valid
  obtain ⟨here, there⟩ := set p among
  unfold Parameter.SetTo at here
  cases held : members.lookup p.name with
  | some data =>
    rw [held] at here
    obtain ⟨value, found, means⟩ := here
    exact ⟨value, found, means.type⟩
  | none =>
    rw [held] at here
    cases default : p.default with
    | some value => exact ⟨value, here.trans default, defaults p among value default⟩
    | none =>
      have required : p.required = true := needed.resolve_right (by simp [default])
      exact absurd ⟨held, default, required⟩ there

/-- A reload may go ahead if no parameter that only a restart can change differs. -/
theorem checkReload_ok_iff {running new : Settings} {parameters : List Parameter} {u : Unit} :
    checkReload running new parameters = .ok u ↔
      ∀ p ∈ parameters, p.context = .restart → running.get? p.name = new.get? p.name := by
  unfold checkReload
  split
  · next p found =>
    have differs := List.find?_some found
    rw [Bool.and_eq_true, beq_iff_eq, bne_iff_ne] at differs
    refine ⟨nofun, fun same => absurd ?_ differs.2⟩
    exact same p (List.mem_of_find?_eq_some found) differs.1
  · next none_found =>
    refine ⟨fun _ p among restart => ?_, fun _ => rfl⟩
    have equal := List.find?_eq_none.1 none_found p among
    rw [restart] at equal
    simpa using equal

end Settings

/-! ## Options of validated settings -/

namespace Options

theorem parameters_distinct : (parameters.map Parameter.name).Nodup := by
  decide

/-- Every parameter of the store is required or has a default. -/
theorem parameters_needed : ∀ p ∈ parameters, p.required ∨ p.default.isSome := by
  decide

/-- Every default passes the check of its own parameter. -/
theorem parameters_defaults :
    ∀ p ∈ parameters, ∀ value, p.default = some value → value.type = p.type := by
  have checked : ∀ p ∈ parameters, p.default.all fun value => value.type = p.type := by decide
  intro p among value found
  have fits := checked p among
  rw [found] at fits
  simpa using fits

theorem needed_ok_iff {α : Type} {name : String} {value : Option α} {a : α} :
    needed name value = .ok a ↔ value = some a := by
  cases value <;> simp [needed]

theorem ofName_ok_iff {text : String} {schedule : Schedule} :
    Schedule.ofName text = .ok schedule ↔ text = schedule.name := by
  refine ⟨fun known => ?_, fun same => same ▸ Schedule.ofName_name schedule⟩
  unfold Schedule.ofName at known
  split at known
  · next same =>
    cases known
    exact same
  · split at known
    · next same =>
      cases known
      exact same
    · cases known

theorem ofSettings_ok_iff {s : Settings} {o : Options} : ofSettings s = .ok o ↔
    s.text? "table_name" = some o.tableName ∧ s.text? "table_prefix" = some o.tablePrefix ∧
      (∃ seconds, s.uint64? "cleanup_rate_secs" = some seconds ∧
        o.cleanupRate = seconds.toNat * 1000) ∧
      s.uint64? "records_to_keep" = some o.recordsToKeep ∧
      s.text? "cleanup_schedule" = some o.schedule.name := by
  obtain ⟨tableName, tablePrefix, cleanupRate, recordsToKeep, schedule⟩ := o
  simp only [ofSettings, bind_ok_iff, needed_ok_iff, pure_ok, Except.ok.injEq, Options.mk.injEq,
    ofName_ok_iff]
  constructor
  · rintro ⟨_, name, _, pre, seconds, rate, _, keep, _, named, _, known, rfl, rfl, rfl, rfl, rfl⟩
    exact ⟨name, pre, ⟨seconds, rate, rfl⟩, keep, known ▸ named⟩
  · rintro ⟨name, pre, ⟨seconds, rate, rfl⟩, keep, named⟩
    exact ⟨_, name, _, pre, seconds, rate, _, keep, _, named, _, rfl, rfl, rfl, rfl, rfl, rfl⟩

theorem text_of_validate {section? : Option Json} {s : Settings}
    (valid : Settings.validate section? parameters = .ok s) {p : Parameter} (among : p ∈ parameters)
    (type : p.type = .text) : ∃ words, s.get? p.name = some (.text words) := by
  obtain ⟨value, found, fits⟩ := Settings.validate_sets parameters_distinct parameters_defaults valid
    p among (parameters_needed p among)
  rw [type] at fits
  cases value with
  | text words => exact ⟨words, found⟩
  | bool b => cases fits
  | int64 n => cases fits
  | uint64 n => cases fits

theorem number_of_validate {section? : Option Json} {s : Settings}
    (valid : Settings.validate section? parameters = .ok s) {p : Parameter} (among : p ∈ parameters)
    (type : p.type = .uint64) : ∃ n, s.get? p.name = some (.uint64 n) := by
  obtain ⟨value, found, fits⟩ := Settings.validate_sets parameters_distinct parameters_defaults valid
    p among (parameters_needed p among)
  rw [type] at fits
  cases value with
  | uint64 n => exact ⟨n, found⟩
  | bool b => cases fits
  | int64 n => cases fits
  | text words => cases fits

/-- Validated settings hold a value of the right type for every option, and the options are made of
these once the schedule is known. -/
theorem ofSettings_validated {section? : Option Json} {s : Settings}
    (valid : Settings.validate section? parameters = .ok s) :
    ∃ tableName tablePrefix seconds keep schedule,
      s.get? "table_name" = some (.text tableName) ∧
      s.get? "table_prefix" = some (.text tablePrefix) ∧
      s.get? "cleanup_rate_secs" = some (.uint64 seconds) ∧
      s.get? "records_to_keep" = some (.uint64 keep) ∧
      s.get? "cleanup_schedule" = some (.text schedule) ∧
      ofSettings s = (Schedule.ofName schedule).map
        fun which => ⟨tableName, tablePrefix, seconds.toNat * 1000, keep, which⟩ := by
  obtain ⟨tableName, name⟩ := text_of_validate valid (.head _) rfl
  obtain ⟨tablePrefix, front⟩ := text_of_validate valid (.tail _ (.head _)) rfl
  obtain ⟨seconds, rate⟩ := number_of_validate valid (.tail _ (.tail _ (.head _))) rfl
  obtain ⟨rows, keep⟩ := number_of_validate valid (.tail _ (.tail _ (.tail _ (.head _)))) rfl
  obtain ⟨schedule, named⟩ :=
    text_of_validate valid (.tail _ (.tail _ (.tail _ (.tail _ (.head _))))) rfl
  refine ⟨tableName, tablePrefix, seconds, rows, schedule, name, front, rate, keep, named, ?_⟩
  dsimp only [Parameter.declare] at name front rate keep named
  simp only [ofSettings, Settings.text?, Settings.uint64?, name, front, rate, keep, named, needed,
    ok_bind]
  cases Schedule.ofName schedule <;> rfl

/-- The only thing that can be wrong with validated settings is the name of the schedule. -/
theorem ofSettings_of_validate {section? : Option Json} {s : Settings}
    (valid : Settings.validate section? parameters = .ok s) :
    (∃ o, ofSettings s = .ok o) ↔
      ∃ schedule : Schedule, s.text? "cleanup_schedule" = some schedule.name := by
  constructor
  · rintro ⟨o, made⟩
    exact ⟨o.schedule, (ofSettings_ok_iff.1 made).2.2.2.2⟩
  · rintro ⟨which, known⟩
    obtain ⟨tableName, tablePrefix, seconds, keep, schedule, -, -, -, -, held, made⟩ :=
      ofSettings_validated valid
    rw [Settings.text?, held] at known
    rw [made, ofName_ok_iff.2 (Option.some.inj known)]
    exact ⟨_, rfl⟩

end Options
end RecordSink
