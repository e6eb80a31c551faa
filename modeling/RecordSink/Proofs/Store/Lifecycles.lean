import RecordSink.Proofs.Retention.Timers
import RecordSink.Proofs.Store.Deliveries
import RecordSink.Proofs.Store.Deployments
import RecordSink.Proofs.Store.Laws

/-! The life of a store. Its options, the table that it writes to and its retention never diverge:
the options are those that were accepted last, batches go to the table that they name, and every
run of retention follows the plan that they make. After the store was deactivated, only deliveries
are left. -/
namespace RecordSink

variable {σ : Type}

/-! ## Options and retention -/

/-- A store whose retention follows the plan that its options make, and that has none once it was
deactivated. -/
structure Store.Consistent (s : Store σ) : Prop where
  planned : ∀ timer, s.scheduler.armed = some timer →
    Plan.ofOptions? s.mapping.naming s.options = some timer.plan
  closed : s.scheduler.closed = true → s.scheduler.armed = none

/-- Every run that falls due follows the plan that the options make. -/
theorem Store.Consistent.plan_of_firing {s : Store σ} (consistent : s.Consistent) {time : Instant}
    {f : Firing} (due : f ∈ s.scheduler.firings time) :
    Plan.ofOptions? s.mapping.naming s.options = some f.plan := by
  unfold Scheduler.firings at due
  cases armed : s.scheduler.armed with
  | none =>
    rw [armed] at due
    cases due
  | some timer =>
    rw [armed] at due
    rw [Timer.plan_of_mem_firings f due]
    exact consistent.planned timer armed

/-- A store has just been armed with the plan that its options make. -/
theorem Store.consistent_of_armed {s : Store σ} {now : Instant} (armed : s.scheduler =
    ⟨(Plan.ofOptions? s.mapping.naming s.options).map (Timer.arm now), false⟩) : s.Consistent := by
  refine ⟨fun timer there => ?_, fun closed => ?_⟩
  · rw [armed] at there
    obtain ⟨plan, made, rfl⟩ := Option.map_eq_some_iff.1 there
    exact made
  · rw [armed] at closed
    cases closed

namespace Deployment

variable {d : Deployment σ}

/-- An event of a store whose table no retention trims but its own. -/
abbrev OwnEvent := { e : Event // ∀ table keep, e ≠ .trim table keep }

/-- The options of the updates that are accepted in a history, in their order. -/
def accepted (d : Deployment σ) : List Event → List Options
  | [] => []
  | .update o :: rest =>
    match d.store.update d.now o with
    | .ok _ => o :: accepted (d.after (.update o)) rest
    | .error _ => accepted (d.after (.update o)) rest
  | e :: rest => accepted (d.after e) rest

theorem consistent_after (e : Event) (consistent : d.store.Consistent) :
    (d.after e).store.Consistent := by
  obtain ⟨planned, closed⟩ := consistent
  cases e with
  | deliver batch => exact ⟨planned, closed⟩
  | update o =>
    dsimp only [after]
    split
    · next store updated =>
      obtain ⟨-, rfl⟩ := Store.update_ok_iff.1 updated
      exact Store.consistent_of_armed rfl
    · exact ⟨planned, closed⟩
  | advance span =>
    refine ⟨fun timer left => ?_, fun ended => ?_⟩
    · obtain ⟨before, armed, rest⟩ := Option.bind_eq_some_iff.1 left
      rw [Timer.plan_of_after timer rest]
      exact planned before armed
    · exact Option.bind_eq_none_iff.2 fun timer armed => nomatch (closed ended).symm.trans armed
  | trim table keep => exact ⟨planned, closed⟩
  | deactivate => exact ⟨nofun, fun _ => rfl⟩
  | observe wall => exact ⟨planned, closed⟩
  | request r => exact ⟨planned, closed⟩

theorem wellFormed_after (e : Event) (well : d.database.tables.WellFormed) :
    (d.after e).database.tables.WellFormed := by
  have law := Database.law_wellFormed
  cases e with
  | deliver batch => exact Site.obeys_writeAll law batch ⟨d.store.clock, d.database⟩ well
  | update o =>
    dsimp only [after]
    split <;> exact well
  | advance span => exact Firing.obeys_performAll law _ d.database well
  | trim table keep => exact ((Action.serial_trim table keep).obeys law).attempt rfl well
  | deactivate => exact well
  | observe wall => exact well
  | request r => exact Pool.wellFormed_of_step (d.pool.step_serve r.1) well

/-- Only deactivation ends retention, and nothing begins it again. -/
theorem closed_after (e : Event) :
    (d.after e).store.scheduler.closed = true ↔
      d.store.scheduler.closed = true ∨ e = .deactivate := by
  cases e with
  | update o =>
    dsimp only [after]
    split
    · next store updated =>
      obtain ⟨active, rfl⟩ := Store.update_ok_iff.1 updated
      simp [active]
    · simp
  | deactivate => simp [after, Store.deactivate, Scheduler.shutDown]
  | deliver batch => simp [after, Store.deliver]
  | advance span => simp [after, Store.advance, Scheduler.after]
  | trim table keep => simp [after, withDatabase]
  | observe wall => simp [after, Store.observe]
  | request r => simp [after]

theorem closed_run (events : List Event) :
    (d.run events).store.scheduler.closed = true ↔
      d.store.scheduler.closed = true ∨ .deactivate ∈ events :=
  foldl_holds_iff (fun d => d.store.scheduler.closed = true) (fun _ e => closed_after e) d events

/-- The options are those that were accepted last. -/
theorem options_run (events : List Event) :
    (d.run events).store.options = ((d.accepted events).getLast?).getD d.store.options := by
  induction events generalizing d with
  | nil => rfl
  | cons e rest ih =>
    rw [run, List.foldl_cons]
    refine ih.trans ?_
    cases e with
    | update o =>
      rw [accepted]
      cases updated : d.store.update d.now o with
      | ok store =>
        have same : (d.after (.update o)).store.options = o := by
          rw [after, updated]
          exact congrArg Store.options (Store.update_ok_iff.1 updated).2
        dsimp only
        rw [same, List.getLast?_cons]
        rfl
      | error e =>
        have same : d.after (.update o) = d := by rw [after, updated]
        dsimp only
        rw [same]
    | _ => rfl

/-- What holds of a store in a history, at the state that it has come to. -/
structure Governed (o : Options) (start : Deployment σ) (events : List Event) (d : Deployment σ) :
    Prop where
  /-- The options are those of the last update that was accepted, and before that those of the
  activation. -/
  options : d.store.options = ((start.accepted events).getLast?).getD o
  /-- Updates are accepted until the store is deactivated, and one that is refused changes
  nothing. -/
  updates : ∀ o', (∃ s, d.store.update d.now o' = .ok s) ↔ .deactivate ∉ events
  refused : ∀ o' e, d.store.update d.now o' = .error e →
    e = .shutDown ∧ d.after (.update o') = d
  /-- Every batch is delivered as deliveries are, also after the store was deactivated, and written
  to no table but the one that the options name. -/
  delivers : ∀ batch, d.store.Delivered batch d.database
  target : d.store.mapping.naming.Worded → ∀ batch table,
    d.store.options.table d.store.mapping.naming ≠ .ok table →
    (d.after (.deliver batch)).database.tables.get? table = d.database.tables.get? table
  /-- As the time moves on, the runs that fall due are performed and nothing else, and each of them
  follows the plan that the options make. -/
  runs : ∀ span, (d.after (.advance span)).database =
      Firing.performAll (d.store.scheduler.firings (d.now + span)) d.database ∧
    ∀ f ∈ d.store.scheduler.firings (d.now + span),
      Plan.ofOptions? d.store.mapping.naming d.store.options = some f.plan
  /-- Neither an update nor the deactivation runs anything. -/
  calm : (∀ o', (d.after (.update o')).database = d.database) ∧
    (d.after .deactivate).database = d.database
  /-- No run falls due any more once the store was deactivated. -/
  retired : .deactivate ∈ events → ∀ time, d.store.scheduler.firings time = []
  /-- Deactivation makes no difference to deliveries. -/
  undisturbed : ∀ batch,
    let (report, s, db) := d.store.deliver batch d.database
    d.store.deactivate.deliver batch d.database = (report, s.deactivate, db)

theorem governed_run (start : Deployment σ) (active : start.store.scheduler.closed = false)
    (consistent : start.store.Consistent) (well : start.database.tables.WellFormed)
    (events : List Event) :
    Governed start.store.options start events (start.run events) := by
  have closed := closed_run (d := start) events
  simp only [active, Bool.false_eq_true, false_or] at closed
  have planned : (start.run events).store.Consistent :=
    run_keeps (fun d => d.store.Consistent) consistent (fun e => consistent_after e) events
  have formed : (start.run events).database.tables.WellFormed :=
    run_keeps (fun d => d.database.tables.WellFormed) well (fun e => wellFormed_after e) events
  have options := options_run (d := start) events
  generalize start.run events = d at closed planned formed options ⊢
  have delivers := fun batch => d.store.delivered batch formed
  refine ⟨options, fun o' => ?_, fun o' e refused => ⟨?_, ?_⟩, delivers,
    fun worded batch table other => ?_, fun span => ⟨rfl, fun f due => planned.plan_of_firing due⟩,
    ⟨fun o' => ?_, rfl⟩, fun ended time => ?_, fun batch => rfl⟩
  · simp only [Store.update_ok_iff, ← closed, Bool.not_eq_true]
    exact ⟨fun ⟨_, active, _⟩ => active, fun active => ⟨_, active, rfl⟩⟩
  · exact (Store.update_error_iff.1 refused).2
  · rw [after, refused]
  · cases target : d.store.options.table d.store.mapping.naming with
    | ok named =>
      have apart : table ≠ named := fun same => other (same ▸ target)
      exact ((delivers batch).rows worded named target).2.others table apart
    | error p =>
      have same : (d.store.deliver batch d.database).2.2 = d.database :=
        ((delivers batch).untargeted p target).2
      exact congrArg (fun db : Database => db.tables.get? table) same
  · rcases d.after_update_cases o' with same | ⟨scheduler, same⟩
    · rw [same]
    · rw [same]
      rfl
  · rw [Scheduler.firings, planned.closed (closed.2 ended)]

/-- **Options, target and retention never diverge.** So it is with every store that is activated on
a database that requests can lead to, whatever happens to it afterwards. -/
theorem governed (limit : Nat) (requests : List Request) (m : Mapping) (o : Options)
    (clock : Clock) (emit : Emitter σ) (downstream : σ) (now : Instant) (events : List OwnEvent) :
    ∃ store, Store.activate m o clock emit downstream now = .ok store ∧
      Governed o ⟨store, ((Pool.empty limit).run requests).2, now⟩ (events.map Subtype.val)
        (run ⟨store, ((Pool.empty limit).run requests).2, now⟩ (events.map Subtype.val)) := by
  let store : Store σ := ⟨m, o, ⟨(Plan.ofOptions? m.naming o).map (Timer.arm now), false⟩, clock,
    emit, downstream⟩
  refine ⟨store, rfl, ?_⟩
  exact governed_run ⟨store, ((Pool.empty limit).run requests).2, now⟩ rfl
    (Store.consistent_of_armed rfl) (Pool.wellFormed_reachable limit requests) _

end Deployment
end RecordSink
