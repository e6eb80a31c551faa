import RecordSink.Proofs.Database.Refusals

/-! Injected faults are counters, one for each verb. However they were injected, an operation fails
of a fault exactly if more faults of its verb were injected so far than operations have failed of
them. Where no fault strikes, an operation is served as if there were none. So runs of the same
operations cannot be told apart if each operation comes after as many injected faults of its verb in
the one as in the other. -/
namespace RecordSink

namespace Request

/-- How many faults of a verb a request injects. -/
def injects (verb : String) : Request → Nat
  | .inject v n => if verb = Text.upper v then n else 0
  | _ => 0

/-- How many faults of a verb requests inject. -/
def injected (verb : String) : List Request → Nat
  | [] => 0
  | r :: later => r.injects verb + injected verb later

/-- Whether a request is an operation, and does not inject faults. -/
def operates : Request → Bool
  | .inject .. => false
  | _ => true

/-- The operations among requests, each with the number of faults of its verb that are injected
before it, if so many were given beforehand. -/
def dues (given : String → Nat) : List Request → List (Request × Option Nat)
  | [] => []
  | r :: later =>
    let rest := dues (fun verb => given verb + r.injects verb) later
    if r.operates then (r, r.verb?.map given) :: rest else rest

end Request

namespace Request

variable {given : String → Nat} {r : Request} {requests : List Request}

theorem injects_of_operates (operates : r.operates = true) (verb : String) :
    r.injects verb = 0 := by
  cases r <;> first | rfl | cases operates

/-- Only injections come to nothing. -/
theorem inject_of_dues_nil (none_due : dues given requests = []) :
    ∀ r ∈ requests, r.operates = false := by
  induction requests generalizing given with
  | nil => exact List.forall_mem_nil _
  | cons r later ih =>
    rw [dues] at none_due
    cases operates : r.operates with
    | true =>
      rw [operates] at none_due
      cases none_due
    | false =>
      rw [operates] at none_due
      exact List.forall_mem_cons.2 ⟨operates, ih none_due⟩

/-- Before the first operation stand injections only. -/
theorem dues_split {due : Option Nat} {rest : List (Request × Option Nat)}
    (first : dues given requests = (r, due) :: rest) : ∃ front later,
      requests = front ++ r :: later ∧ (∀ s ∈ front, s.operates = false) ∧ r.operates = true ∧
      due = r.verb?.map (fun verb => given verb + injected verb front) ∧
      rest = dues (fun verb => given verb + injected verb front) later := by
  induction requests generalizing given with
  | nil => cases first
  | cons s later ih =>
    rw [dues] at first
    cases operates : s.operates with
    | true =>
      simp only [operates, injects_of_operates operates, if_true] at first
      obtain ⟨⟨rfl, rfl⟩, rfl⟩ : (s = r ∧ _ = due) ∧ _ = rest := by simpa using first
      exact ⟨[], later, rfl, List.forall_mem_nil _, operates, rfl, rfl⟩
    | false =>
      rw [operates] at first
      obtain ⟨front, later, rfl, inject, operates', rfl, rfl⟩ := ih first
      have sum : ∀ verb, given verb + s.injects verb + injected verb front =
          given verb + injected verb (s :: front) := fun verb => by
        rw [injected, Nat.add_assoc]
      exact ⟨s :: front, later, rfl, List.forall_mem_cons.2 ⟨operates, inject⟩, operates',
        by simp only [sum], by simp only [sum]⟩

theorem dues_of_inject (inject : ∀ r ∈ requests, r.operates = false) :
    dues given requests = [] := by
  induction requests generalizing given with
  | nil => rfl
  | cons r later ih =>
    obtain ⟨first, others⟩ := List.forall_mem_cons.1 inject
    rw [dues, first]
    exact ih others

theorem dues_append (first rest : List Request) : dues given (first ++ rest) =
    dues given first ++ dues (fun verb => given verb + injected verb first) rest := by
  induction first generalizing given with
  | nil => rfl
  | cons r first ih =>
    simp only [List.cons_append, dues, ih, injected, Nat.add_assoc]
    split <;> rfl

/-- What is due does not depend on how faults are injected between two operations. -/
theorem dues_regrouped {first second : List Request}
    (inject : ∀ r ∈ first ++ second, r.operates = false)
    (same : ∀ verb, injected verb second = injected verb first) (before after : List Request) :
    dues given (before ++ second ++ after) = dues given (before ++ first ++ after) := by
  obtain ⟨inject_first, inject_second⟩ := List.forall_mem_append.1 inject
  rw [List.append_assoc, List.append_assoc, dues_append, dues_append, dues_append before,
    dues_append first, dues_of_inject inject_first, dues_of_inject inject_second]
  simp only [same]

end Request

/-- Whether what was served has failed of a fault of this verb. -/
def Serving.struckBy (verb : String) (s : Serving) : Bool :=
  s.answer == .failed (.of (.injected verb))

/-! ## Talk that no fault strikes -/

/-- No statement fails of a fault by itself. -/
theorem Catalog.apply_ne_injected {c : Catalog} {s : Sql.Statement} {verb : String} :
    c.apply s ≠ .error (.injected verb) := by
  have mapped : ∀ {x : Except Mismatch Catalog},
      (x.mapError Cause.mismatch).map ((0, ·) : Catalog → Nat × Catalog) ≠
        .error (.injected verb) := by
    rintro (m | d) <;> nofun
  have counted : ∀ {x : Except Mismatch (Nat × Catalog)},
      x.mapError Cause.mismatch ≠ .error (.injected verb) := by
    rintro (m | d) <;> nofun
  cases s with
  | createTable => exact mapped
  | addColumn => exact mapped
  | dropColumn => exact mapped
  | delete => exact counted
  | truncate => exact counted
  | insert => nofun

/-- The link to the same database with these faults pending. -/
def Link.withFaults (link : Link) (faults : Faults) : Link :=
  { link with database := link.database.withFaults faults }

namespace Dialogue

/-- Talk for which it makes no difference which faults are pending, as long as none of them strikes,
and which then does not fail of a fault. -/
structure Unstruck (calm : Faults → Prop) (d : Dialogue α) : Prop where
  same : ∀ link f, calm link.database.faults → calm f →
    d (link.withFaults f) = mapState (·.withFaults f) (d link)
  other : ∀ {link e after}, calm link.database.faults → d link = .error e after →
    ∀ verb, e ≠ .of (.injected verb)

theorem rowToStage_ne_injected {sql verb : String} {parameters : List Value} :
    rowToStage sql parameters ≠ .error (.injected verb) := by
  unfold rowToStage
  cases Sql.parse sql with
  | error e => nofun
  | ok s =>
    simp only [Except.mapError, ok_bind]
    split
    · split
      · nofun
      · simp only [pure_ok]
        split <;> nofun
    · nofun

theorem unstruck_execute (sql : String) :
    Unstruck (fun f => f.strike? (Sql.verb sql) = none) (execute sql) where
  same link f calm calm' := by
    have here : (link.withFaults f).database.faults.strike? (Sql.verb sql) = none := calm'
    rw [execute_eq, execute_eq, calm, here]
    dsimp only [Link.withFaults, Database.withFaults]
    cases (Sql.parse sql).mapError .statement >>= link.database.tables.apply <;> rfl
  other {link e after} calm failed verb := by
    rw [execute_eq, calm] at failed
    dsimp only at failed
    cases ran : (Sql.parse sql).mapError .statement >>= link.database.tables.apply with
    | ok done =>
      rw [ran] at failed
      cases failed
    | error cause =>
      rw [ran] at failed
      cases failed
      rintro ⟨⟩
      cases read : Sql.parse sql with
      | error e =>
        rw [read] at ran
        cases ran
      | ok s =>
        rw [read] at ran
        exact Catalog.apply_ne_injected ran

theorem unstruck_executeWith (sql : String) (parameters : List Value) :
    Unstruck (fun f => f.strike? (Sql.verb sql) = none) (executeWith sql parameters) where
  same link f calm calm' := by
    have here : (link.withFaults f).database.faults.strike? (Sql.verb sql) = none := calm'
    rw [executeWith_eq, executeWith_eq, calm, here]
    dsimp only [Link.withFaults, Database.withFaults]
    cases rowToStage sql parameters with
    | error cause => rfl
    | ok s =>
      dsimp only
      cases link.database.tables.checkStaging link.staged s <;> rfl
  other {link e after} calm failed verb := by
    rw [executeWith_eq, calm] at failed
    dsimp only at failed
    cases made : rowToStage sql parameters with
    | error cause =>
      rw [made] at failed
      cases failed
      rintro ⟨⟩
      exact rowToStage_ne_injected made
    | ok s =>
      rw [made] at failed
      dsimp only at failed
      split at failed <;> cases failed
      nofun

theorem unstruck_commit : Unstruck (fun f => f.strike? "COMMIT" = none) commit where
  same link f calm calm' := by
    have here : (link.withFaults f).database.faults.strike? "COMMIT" = none := calm'
    rw [commit_eq, commit_eq, calm, here]
    dsimp only [Link.withFaults, Database.withFaults]
    cases link.database.tables.commit link.staged <;> rfl
  other {link e after} calm failed verb := by
    rw [commit_eq, calm] at failed
    dsimp only at failed
    split at failed <;> cases failed
    nofun

theorem unstruck_tableExists (name : String) :
    Unstruck (fun f => f.strike? "METADATA" = none) (tableExists name) where
  same link f calm calm' := by
    have here : (link.withFaults f).database.faults.strike? "METADATA" = none := calm'
    rw [tableExists_eq, tableExists_eq, calm, here]
    rfl
  other {link e after} calm failed := by
    rw [tableExists_eq, calm] at failed
    cases failed

theorem unstruck_columns (name : String) :
    Unstruck (fun f => f.strike? "METADATA" = none) (columns name) where
  same link f calm calm' := by
    have here : (link.withFaults f).database.faults.strike? "METADATA" = none := calm'
    rw [columns_eq, columns_eq, calm, here]
    rfl
  other {link e after} calm failed := by
    rw [columns_eq, calm] at failed
    cases failed

theorem unstruck_rollback : Unstruck (fun _ => True) rollback where
  same _ _ _ _ := rfl
  other _ failed := by cases failed

end Dialogue

namespace Pool

variable {p : Pool} {client verb : String} {r : Request} {f : Faults}

/-! ## One request -/

/-- A service that does the same whichever of these faults are pending, and does not fail of one. -/
structure Unstruck (service : Pool → Answer × Pool) (p : Pool) (f : Faults) : Prop where
  same : service (p.struck f) = ((service p).1, (service p).2.struck f)
  other : ∀ verb, (service p).1 ≠ .failed (.of (.injected verb))

theorem Unstruck.faults {service : Pool → Answer × Pool}
    (unstruck : Unstruck service p p.database.faults) :
    (service p).2.database.faults = p.database.faults := by
  have same : (service p).2 = (service p).2.struck p.database.faults :=
    congrArg Prod.snd unstruck.same
  rw [same]
  rfl

theorem unstruck_talk {calm : Faults → Prop} {d : Dialogue α} {answer : α → Answer}
    (unstruck : Dialogue.Unstruck calm d) (here : calm p.database.faults) (there : calm f)
    (answers : ∀ x e, answer x ≠ .failed e) : Unstruck (·.talk client d answer) p f := by
  have staged : (p.struck f).staged? client = p.staged? client := rfl
  constructor
  all_goals dsimp only [talk]
  · rw [staged]
    cases p.staged? client with
    | none => rfl
    | some rows =>
      have said := unstruck.same ⟨p.database, rows⟩ f here there
      dsimp only [Link.withFaults] at said
      simp only [struck, said]
      cases d ⟨p.database, rows⟩ <;> rfl
  · intro verb
    cases p.staged? client with
    | none =>
      intro same
      cases same
    | some rows =>
      dsimp only
      cases ran : d ⟨p.database, rows⟩ with
      | ok x link => exact answers x _
      | error e link =>
        intro same
        cases same
        exact unstruck.other here ran verb rfl

theorem unstruck_connect (here : p.database.faults.strike? "CONNECT" = none)
    (there : f.strike? "CONNECT" = none) : Unstruck (·.connect client) p f := by
  have calm : (p.struck f).database.faults.strike? "CONNECT" = none := there
  have staged : (p.struck f).staged? client = p.staged? client := rfl
  have room : (p.struck f).database.openCount = p.database.openCount := rfl
  have limit : (p.struck f).database.limit = p.database.limit := rfl
  constructor
  all_goals dsimp only [connect]
  · rw [Action.connect_eq, Action.connect_eq, calm, here, staged, room, limit]
    by_cases free : p.database.openCount < p.database.limit
    · simp only [free, if_true]
      split <;> rfl
    · simp only [free, if_false]
  · intro verb
    rw [Action.connect_eq, here]
    by_cases free : p.database.openCount < p.database.limit
    · simp only [free, if_true]
      nofun
    · simp only [free, if_false]
      nofun

theorem unstruck_close : Unstruck (·.serve (.close client)) p f := by
  have staged : (p.struck f).staged? client = p.staged? client := rfl
  constructor
  · dsimp only [serve, close]
    rw [staged]
    cases p.staged? client <;> rfl
  · nofun

/-- Where no fault of its verb is pending, an operation is served as if there were no faults. -/
theorem unstruck_serve (operates : r.operates = true)
    (here : ∀ verb, r.verb? = some verb → p.database.faults.strike? verb = none)
    (there : ∀ verb, r.verb? = some verb → f.strike? verb = none) :
    Unstruck (·.serve r) p f := by
  cases r with
  | connect client => exact unstruck_connect (here _ rfl) (there _ rfl)
  | close client => exact unstruck_close
  | execute client sql =>
    exact unstruck_talk (Dialogue.unstruck_execute sql) (here _ rfl) (there _ rfl) nofun
  | executeWith client sql parameters =>
    exact unstruck_talk (Dialogue.unstruck_executeWith sql parameters) (here _ rfl) (there _ rfl)
      nofun
  | commit client => exact unstruck_talk Dialogue.unstruck_commit (here _ rfl) (there _ rfl) nofun
  | rollback client =>
    exact @unstruck_talk _ _ _ _ _ _ (fun _ => .done) Dialogue.unstruck_rollback trivial trivial
      nofun
  | tableExists client table =>
    exact unstruck_talk (Dialogue.unstruck_tableExists table) (here _ rfl) (there _ rfl) nofun
  | columns client table =>
    exact unstruck_talk (Dialogue.unstruck_columns table) (here _ rfl) (there _ rfl) nofun
  | inject verb n => cases operates

/-- A client without a connection is told so, whatever faults are pending. -/
theorem unstruck_talk_unknown {d : Dialogue α} {answer : α → Answer}
    (answers : ∀ x, answer x ≠ .unknownClient)
    (unknown : (p.talk client d answer).1 = .unknownClient) :
    Unstruck (·.talk client d answer) p f := by
  have staged : (p.struck f).staged? client = p.staged? client := rfl
  unfold talk at unknown
  cases held : p.staged? client with
  | some rows =>
    rw [held] at unknown
    dsimp only at unknown
    cases ran : d ⟨p.database, rows⟩ with
    | ok x link =>
      rw [ran] at unknown
      exact absurd unknown (answers x)
    | error e link =>
      rw [ran] at unknown
      cases unknown
  | none =>
    constructor
    all_goals
      dsimp only [talk]
      rw [held]
    · rw [staged, held]
    · nofun

theorem unstruck_unknown (unknown : (p.serve r).1 = .unknownClient) :
    Unstruck (·.serve r) p f := by
  cases r with
  | connect client =>
    change (p.connect client).1 = _ at unknown
    unfold connect at unknown
    cases taken : Action.connect p.database <;> rw [taken] at unknown <;> cases unknown
  | close client => exact unstruck_close
  | inject verb n => cases unknown
  | execute client sql => exact unstruck_talk_unknown nofun unknown
  | executeWith client sql parameters => exact unstruck_talk_unknown nofun unknown
  | commit client => exact unstruck_talk_unknown nofun unknown
  | rollback client => exact unstruck_talk_unknown nofun unknown
  | tableExists client table => exact unstruck_talk_unknown nofun unknown
  | columns client table => exact unstruck_talk_unknown nofun unknown

/-- An operation meets a fault of its verb, if as many faults of the verb are pending there as here,
in both places or in neither. -/
theorem serve_cases (operates : r.operates = true)
    (even : ∀ verb, r.verb? = some verb → f.pending verb = p.database.faults.pending verb) :
    (∃ verb here there, r.verb? = some verb ∧ p.database.faults.strike? verb = some here ∧
      f.strike? verb = some there ∧ p.serve r = (.failed (.of (.injected verb)), p.struck here) ∧
      (p.struck f).serve r = (.failed (.of (.injected verb)), p.struck there)) ∨
    (Unstruck (·.serve r) p p.database.faults ∧ Unstruck (·.serve r) p f ∧
      ((p.serve r).1 ≠ .unknownClient →
        ∀ verb, r.verb? = some verb → p.database.faults.pending verb = 0)) := by
  by_cases unknown : (p.serve r).1 = .unknownClient
  · exact .inr ⟨unstruck_unknown unknown, unstruck_unknown unknown,
      fun known => absurd unknown known⟩
  cases meets : r.verb? with
  | none =>
    have none_met : ∀ g verb, r.verb? = some verb → Faults.strike? g verb = none := by
      intro g verb met
      rw [meets] at met
      cases met
    exact .inr ⟨unstruck_serve operates (none_met _) (none_met _),
      unstruck_serve operates (none_met _) (none_met _), nofun⟩
  | some verb =>
    have only : ∀ other, r.verb? = some other → verb = other := fun other met =>
      Option.some.inj (meets.symm.trans met)
    have same := even verb meets
    cases here : p.database.faults.strike? verb with
    | none =>
      have none_left := (Faults.strike?_eq_none_iff _ _).1 here
      have there := (Faults.strike?_eq_none_iff f verb).2 (same.trans none_left)
      have calm : ∀ other, r.verb? = some other → p.database.faults.strike? other = none :=
        fun other met => only other met ▸ here
      have calm' : ∀ other, r.verb? = some other → f.strike? other = none :=
        fun other met => only other met ▸ there
      refine .inr ⟨unstruck_serve operates calm calm, unstruck_serve operates calm calm', ?_⟩
      rintro - _ ⟨⟩
      exact none_left
    | some rest =>
      cases there : f.strike? verb with
      | none =>
        rw [(Faults.strike?_eq_none_iff f verb).1 there] at same
        rw [(Faults.strike?_eq_none_iff _ _).2 same.symm] at here
        cases here
      | some rest' =>
        have first := serve_struck meets unknown here
        refine .inl ⟨verb, rest, rest', rfl, here, there, first, ?_⟩
        have known : ((p.struck f).serve r).1 ≠ .unknownClient := by
          intro unknown'
          have back := @unstruck_unknown (p.struck f) r p.database.faults unknown'
          exact unknown ((congrArg Prod.fst back.same).trans unknown')
        exact serve_struck (p := p.struck f) meets known there

/-- What one request does to the pending faults. -/
theorem pending_serve (p : Pool) (r : Request) (verb : String) :
    (p.serve r).2.database.faults.pending verb +
        (if (p.serve r).1 = .failed (.of (.injected verb)) then 1 else 0) =
      p.database.faults.pending verb + r.injects verb := by
  cases operates : r.operates with
  | false =>
    cases r with
    | inject v n => exact Faults.pending_inject p.database.faults v verb n
    | _ => cases operates
  | true =>
    rw [Request.injects_of_operates operates, Nat.add_zero]
    rcases serve_cases (p := p) operates (fun _ _ => rfl) with
      ⟨v, rest, -, -, strikes, -, served, -⟩ | ⟨unstruck, -, -⟩
    · rw [served, ← Faults.pending_of_strike? strikes verb]
      simp [struck, Database.withFaults, Failure.of, eq_comm (a := v)]
    · rw [if_neg (unstruck.other verb), unstruck.faults, Nat.add_zero]

/-- An operation fails of a fault exactly if one of its verb is pending. -/
theorem struck_iff (meets : r.verb? = some verb) (known : (p.serve r).1 ≠ .unknownClient) :
    (p.serve r).1 = .failed (.of (.injected verb)) ↔ 0 < p.database.faults.pending verb := by
  have operates : r.operates = true := by
    cases r <;> first | rfl | cases meets
  rcases serve_cases (p := p) operates (fun _ _ => rfl) with
    ⟨v, rest, -, meets', strikes, -, served, -⟩ | ⟨unstruck, -, calm⟩
  · obtain rfl : v = verb := Option.some.inj (meets'.symm.trans meets)
    have some_left := mt (Faults.strike?_eq_none_iff _ _).2 (strikes ▸ Option.some_ne_none rest)
    exact iff_of_true (congrArg Prod.fst served) (Nat.pos_of_ne_zero some_left)
  · rw [calm known verb meets]
    exact iff_of_false (unstruck.other verb) (Nat.lt_irrefl 0)

/-! ## Runs -/

/-- Over a run, the faults of a verb that were injected have struck or are pending. -/
theorem pending_run (p : Pool) (requests : List Request) (verb : String) :
    (p.run requests).2.database.faults.pending verb +
        (p.servings requests).countP (Serving.struckBy verb) =
      p.database.faults.pending verb + Request.injected verb requests := by
  induction requests generalizing p with
  | nil => rfl
  | cons r rest ih =>
    have step := pending_serve p r verb
    have later := ih (p.serve r).2
    have here : Serving.struckBy verb (p.serving r) =
        decide ((p.serve r).1 = .failed (.of (.injected verb))) := rfl
    simp only [run_cons, servings_cons, List.countP_cons, here, decide_eq_true_eq,
      Request.injected]
    omega

/-- What is heard of a run: its operations and the answers to them. -/
def operated (p : Pool) : List Request → List (Request × Answer)
  | [] => []
  | r :: later =>
    let rest := (p.serve r).2.operated later
    if r.operates then (r, (p.serve r).1) :: rest else rest

/-- After a run that only injects faults, nothing else has changed. -/
theorem run_injections {requests : List Request} (inject : ∀ r ∈ requests, r.operates = false) :
    ∃ g, (p.run requests).2 = p.struck g ∧
      ∀ verb, g.pending verb = p.database.faults.pending verb + Request.injected verb requests := by
  induction requests generalizing p with
  | nil => exact ⟨p.database.faults, rfl, fun _ => rfl⟩
  | cons r rest ih =>
    obtain ⟨first, others⟩ := List.forall_mem_cons.1 inject
    cases r with
    | inject v n =>
      obtain ⟨g, ran, pending⟩ := @ih ((p.serve (.inject v n)).2) others
      refine ⟨g, ran, fun verb => ?_⟩
      have more := Faults.pending_inject p.database.faults v verb n
      rw [pending verb, Request.injected, ← Nat.add_assoc]
      exact congrArg (· + _) more
    | _ => cases first

theorem operated_injections {front : List Request} (inject : ∀ r ∈ front, r.operates = false)
    (rest : List Request) : p.operated (front ++ rest) = (p.run front).2.operated rest := by
  induction front generalizing p with
  | nil => rfl
  | cons r front ih =>
    obtain ⟨first, others⟩ := List.forall_mem_cons.1 inject
    rw [List.cons_append, operated, first, run_cons]
    exact ih others

/-- Faults that stand to those of a pool as the faults given beforehand do to those given there: as
many of each verb have struck. -/
private def Level (p : Pool) (f : Faults) (given given' : String → Nat) : Prop :=
  ∀ verb, f.pending verb + given verb = p.database.faults.pending verb + given' verb

section Level

variable {given given' : String → Nat}

private theorem Level.injected {front : List Request} (level : Level p f given given')
    (inject : ∀ r ∈ front, r.operates = false) : ∃ g, (p.run front).2 = p.struck g ∧
      Level (p.struck g) f (fun verb => given verb + Request.injected verb front) given' := by
  obtain ⟨g, ran, pending⟩ := run_injections (p := p) inject
  refine ⟨g, ran, fun verb => ?_⟩
  have here := level verb
  have more : (p.struck g).database.faults.pending verb = _ := pending verb
  dsimp only
  omega

private theorem Level.injected_there {front : List Request} (level : Level p f given given')
    (inject : ∀ r ∈ front, r.operates = false) :
    ∃ g, ((p.struck f).run front).2 = p.struck g ∧
      Level p g given fun verb => given' verb + Request.injected verb front := by
  obtain ⟨g, ran, pending⟩ := run_injections (p := p.struck f) inject
  refine ⟨g, ran, fun verb => ?_⟩
  have here := level verb
  have more : g.pending verb = f.pending verb + _ := pending verb
  dsimp only
  omega

/-- An operation before which as many faults of its verb were given here and there. -/
private theorem Level.served (level : Level p f given given') (operates : r.operates = true)
    (due : r.verb?.map given = r.verb?.map given') : ∃ g,
      (p.struck f).serve r = ((p.serve r).1, (p.serve r).2.struck g) ∧
        Level (p.serve r).2 g given given' := by
  have even : ∀ verb, r.verb? = some verb →
      f.pending verb = p.database.faults.pending verb := by
    intro verb meets
    rw [meets] at due
    have both : given verb = given' verb := Option.some.inj due
    have here := level verb
    omega
  rcases serve_cases (p := p) operates even with
    ⟨v, here, there, -, strikes, strikes', served, served'⟩ | ⟨own, unstruck, -⟩
  · refine ⟨there, by rw [served, served']; rfl, fun verb => ?_⟩
    have before := level verb
    rw [← Faults.pending_of_strike? strikes verb,
      ← Faults.pending_of_strike? strikes' verb] at before
    rw [served]
    change _ = here.pending verb + _
    omega
  · refine ⟨f, unstruck.same, fun verb => ?_⟩
    rw [own.faults]
    exact level verb

/-- Runs of the same operations, each of them after as many injected faults of its verb in one run
as in the other, answer them alike and come to pools that differ in pending faults alone. -/
private theorem Level.operated {requests others : List Request} (level : Level p f given given')
    (same : Request.dues given' others = Request.dues given requests) :
    (p.struck f).operated others = p.operated requests ∧
      ∃ g, ((p.struck f).run others).2 = (p.run requests).2.struck g := by
  induction requests generalizing p f given given' others with
  | nil =>
    have inject := Request.inject_of_dues_nil same
    obtain ⟨g, ran, -⟩ := level.injected_there inject
    have heard := operated_injections (p := p.struck f) inject []
    rw [List.append_nil] at heard
    exact ⟨heard, g, ran⟩
  | cons r requests ih =>
    rw [Request.dues] at same
    cases operates : r.operates with
    | false =>
      rw [operates] at same
      obtain ⟨g, ran, level'⟩ := level.injected (List.forall_mem_singleton.2 operates)
      change (p.serve r).2 = p.struck g at ran
      rw [Pool.operated, operates, run_cons, ran]
      exact ih level' same
    | true =>
      rw [operates] at same
      obtain ⟨front, later, rfl, inject, -, due, rest⟩ := Request.dues_split same
      simp only [Request.injects_of_operates operates, Nat.add_zero] at rest
      obtain ⟨g, ran, level'⟩ := level.injected_there inject
      obtain ⟨h, served, level''⟩ := level'.served operates due
      obtain ⟨heard, last⟩ := ih level'' rest.symm
      rw [operated_injections inject, run_append, ran, Pool.operated, Pool.operated, operates,
        run_cons, run_cons, served]
      exact ⟨congrArg (_ :: ·) heard, last⟩

end Level

/-- Runs that no operation tells apart. They answer all operations alike and come to the same
tables, connections and staged rows; only the pending faults may differ. -/
structure Indistinct (p : Pool) (requests others : List Request) : Prop where
  answers : p.operated others = p.operated requests
  database : ∃ faults, (p.run others).2.database = (p.run requests).2.database.withFaults faults
  connections : (p.run others).2.connections = (p.run requests).2.connections

theorem indistinct_of_dues {requests others : List Request} {given : String → Nat}
    (same : Request.dues given others = Request.dues given requests) :
    p.Indistinct requests others := by
  have level : Level p p.database.faults given given := fun _ => rfl
  obtain ⟨heard, g, last⟩ := level.operated same
  have database := congrArg Pool.database last
  have connections := congrArg Pool.connections last
  exact ⟨heard, ⟨g, database⟩, connections⟩

/-- After these requests, the faults of each verb count for themselves. -/
structure CountsFaults (p : Pool) (requests : List Request) : Prop where
  /-- What was injected has struck or is pending. -/
  sum : ∀ verb, (p.run requests).2.database.faults.pending verb +
    (p.servings requests).countP (Serving.struckBy verb) = Request.injected verb requests
  /-- The next operation fails of a fault exactly if more of its verb were injected than have
  struck. -/
  strikes : ∀ r verb, r.verb? = some verb → ((p.run requests).2.serve r).1 ≠ .unknownClient →
    (((p.run requests).2.serve r).1 = .failed (.of (.injected verb)) ↔
      (p.servings requests).countP (Serving.struckBy verb) < Request.injected verb requests)
  /-- That is a failure of the database to answer, and nothing comes of it but that one fault of the
  verb of the operation is used up. -/
  effect : ∀ r verb, ((p.run requests).2.serve r).1 = .failed (.of (.injected verb)) →
    r.verb? = some verb ∧ (Failure.of (.injected verb)).category = .io ∧
    ∃ rest, ((p.run requests).2.serve r).2 =
        ⟨(p.run requests).2.database.withFaults rest, (p.run requests).2.connections⟩ ∧
      ∀ other, rest.pending other + (if other = verb then 1 else 0) =
        (p.run requests).2.database.faults.pending other

theorem countsFaults_of_none (none_yet : ∀ verb, p.database.faults.pending verb = 0)
    (requests : List Request) : p.CountsFaults requests := by
  have sum : ∀ verb, (p.run requests).2.database.faults.pending verb +
      (p.servings requests).countP (Serving.struckBy verb) = Request.injected verb requests := by
    intro verb
    rw [pending_run, none_yet, Nat.zero_add]
  refine ⟨sum, fun r verb meets known => ?_, fun r verb failed => ?_⟩
  · rw [struck_iff meets known, ← sum verb]
    omega
  · have operates : r.operates = true := by
      cases r <;> first | rfl | cases failed
    rcases serve_cases (p := (p.run requests).2) operates (fun _ _ => rfl) with
      ⟨v, rest, -, meets, strikes, -, served, -⟩ | ⟨unstruck, -, -⟩
    · rw [served] at failed ⊢
      cases failed
      exact ⟨meets, rfl, rest, rfl, Faults.pending_of_strike? strikes⟩
    · exact absurd failed (unstruck.other verb)

/-- **Injected faults are counters, one for each verb.** Whatever has been requested on whichever
connections, the faults of each verb count for themselves. Runs in which as many faults of its verb
were injected before each operation cannot be told apart; so it makes no difference in which order
faults are injected between two operations, and in how many parts. -/
theorem faults_count_by_verb (limit : Nat) (requests : List Request) :
    (empty limit).CountsFaults requests ∧
    (∀ others, Request.dues (fun _ => 0) others = Request.dues (fun _ => 0) requests →
      (empty limit).Indistinct requests others) ∧
    ∀ before first second after, requests = before ++ first ++ after →
      (∀ r ∈ first ++ second, r.operates = false) →
      (∀ verb, Request.injected verb second = Request.injected verb first) →
      (empty limit).Indistinct requests (before ++ second ++ after) := by
  refine ⟨countsFaults_of_none (fun _ => rfl) requests, fun others same => indistinct_of_dues same,
    ?_⟩
  rintro before first second after rfl inject same
  exact indistinct_of_dues (@Request.dues_regrouped (fun _ => 0) _ _ inject same before after)

/-- Faults of inserts that are injected at once or one by one, and before or after the connection is
opened and a table made. -/
theorem faults_injected_one_by_one :
    let later : List Request := [.executeWith "c" "insert INTO t (k) VALUES (?)" [.integer 1],
      .executeWith "c" "INSERT INTO t (k) VALUES (?)" [.integer 2], .commit "c",
      .executeWith "c" "INSERT INTO t (k) VALUES (?)" [.integer 3], .commit "c"]
    let create : Request := .execute "c" "CREATE TABLE t (k INTEGER PRIMARY KEY)"
    (empty 1).Indistinct
      (.inject "insert" 2 :: .inject "COMMIT" 1 :: .connect "c" :: create :: later)
      (.connect "c" :: .inject "Insert" 1 :: create :: .inject "commit" 1 :: .inject "ALTER" 0 ::
        .inject "INSERT" 1 :: later) :=
  (faults_count_by_verb 1 _).2.1 _ (by decide +kernel)

end Pool
end RecordSink
