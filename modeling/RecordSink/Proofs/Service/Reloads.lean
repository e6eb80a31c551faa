import RecordSink.Proofs.Config.Validation
import RecordSink.Proofs.Store.Deployments
import RecordSink.Service

/-! Reloads of a running service. Whatever configurations are offered to it, and whatever else
happens to it in between, the options of its store are those of the values it runs with, and the
prefix of its table is the one it was started with. A reload that is refused changes nothing. -/
namespace RecordSink.Service

variable {σ : Type}

/-- What happens to a running service. -/
inductive Event where
  /-- The configuration is read again at this time, from a file whose text is given unless it cannot
  be read. -/
  | reload (now : Instant) (path : String) (text? : Option String)
  /-- Retention is stopped for good. -/
  | stop
  /-- A line is received. -/
  | receive (line : String)
  /-- The time moves on. -/
  | advance (time : Instant)
  /-- The wall clock changes. -/
  | observe (wall : Nat → Int64)

/-- The service after an event. After a reload that is refused it is the one that there was. -/
def after (s : Service σ) : Event → Service σ
  | .reload now path text? =>
    match s.reloadFile path text? now with
    | .ok next => next
    | .error _ => s
  | .stop => s.stop
  | .receive line => s.receive line
  | .advance time => s.advance time
  | .observe wall => s.observe wall

/-- The service after events, in their order. -/
def play (s : Service σ) (events : List Event) : Service σ :=
  events.foldl after s

/-- What has to hold of the text of a file for it to be taken over as this configuration with these
values. -/
structure Accepts (s : Service σ) (text? : Option String) (c : Configuration) (values : Settings) :
    Prop where
  parses : ∃ text, text? = some text ∧ Configuration.ofText? text = some c
  database : Toml.sameSections c.database s.config.database = true
  validates : c.settings = .ok values
  restart : ∀ p ∈ Options.parameters, p.context = .restart →
    s.settings.get? p.name = values.get? p.name
  schedule : ∃ schedule : Schedule, values.text? "cleanup_schedule" = some schedule.name

/-- The service with a new configuration, from which these values and options were made. -/
def adopt (s : Service σ) (now : Instant) (c : Configuration) (values : Settings) (o : Options) :
    Service σ :=
  { s with
    config := c
    settings := values
    store := { s.store with
      options := o
      scheduler := ⟨(Plan.ofOptions? s.store.mapping.naming o).map (Timer.arm now), false⟩ } }

/-! ## One reload -/

theorem settings_ok_iff {c : Configuration} {values : Settings} :
    c.settings = .ok values ↔
      Settings.validate (c.store.map Toml.json) Options.parameters = .ok values :=
  mapError_ok_iff

theorem options_ok_iff {values : Settings} {o : Options} :
    Configuration.options values = .ok o ↔ Options.ofSettings values = .ok o :=
  mapError_ok_iff

theorem ofFile_ok_iff {path : String} {text? : Option String} {c : Configuration} :
    Configuration.ofFile path text? = .ok c ↔
      ∃ text, text? = some text ∧ Configuration.ofText? text = some c := by
  simp only [Configuration.ofFile, mapError_ok_iff]
  cases text? with
  | none => simp
  | some text =>
    cases read : Configuration.ofText? text <;> simp [Configuration.parse, read]

theorem reload_ok_iff {s next : Service σ} {now : Instant} {c : Configuration} :
    s.reload now c = .ok next ↔
      Toml.sameSections c.database s.config.database = true ∧ ∃ values o,
        c.settings = .ok values ∧
        (∀ p ∈ Options.parameters, p.context = .restart →
          s.settings.get? p.name = values.get? p.name) ∧
        Options.ofSettings values = .ok o ∧ s.store.scheduler.closed = false ∧
        next = s.adopt now c values o := by
  unfold reload
  cases same : Toml.sameSections c.database s.config.database with
  | false => simp
  | true =>
    simp only [Bool.not_true, Bool.false_eq_true, if_false, pure_ok, bind_ok_iff,
      Configuration.storeSettings, mapError_ok_iff, Settings.checkReload_ok_iff, options_ok_iff,
      Store.update_ok_iff, Except.ok.injEq, true_and]
    constructor
    · rintro ⟨values, valid, -, unchanged, o, made, store, ⟨running, rfl⟩, rfl⟩
      exact ⟨values, o, valid, unchanged, made, running, rfl⟩
    · rintro ⟨values, o, valid, unchanged, made, running, rfl⟩
      exact ⟨values, valid, (), unchanged, o, made, _, ⟨running, rfl⟩, rfl⟩

/-- A reload is taken over exactly if retention was not stopped and the text is acceptable, and then
the new service is the old one with the configuration in that text. -/
theorem reloadFile_ok_iff {s next : Service σ} {path : String} {text? : Option String}
    {now : Instant} :
    s.reloadFile path text? now = .ok next ↔ s.store.scheduler.closed = false ∧
      ∃ c values o, s.Accepts text? c values ∧ Configuration.options values = .ok o ∧
        next = s.adopt now c values o := by
  simp only [reloadFile, bind_ok_iff, ofFile_ok_iff, reload_ok_iff, options_ok_iff]
  constructor
  · rintro ⟨c, parses, same, values, o, valid, unchanged, made, running, rfl⟩
    refine ⟨running, c, values, o, ⟨parses, same, valid, unchanged, ?_⟩, made, rfl⟩
    exact (Options.ofSettings_of_validate (settings_ok_iff.1 valid)).1 ⟨o, made⟩
  · rintro ⟨running, c, values, o, accepted, made, rfl⟩
    exact ⟨c, accepted.parses, accepted.database, values, o, accepted.validates, accepted.restart,
      made, running, rfl⟩

/-- Acceptable values have options. -/
theorem Accepts.options {s : Service σ} {text? : Option String} {c : Configuration}
    {values : Settings} (accepted : s.Accepts text? c values) :
    ∃ o, Configuration.options values = .ok o := by
  obtain ⟨o, made⟩ := (Options.ofSettings_of_validate (settings_ok_iff.1 accepted.validates)).2
    accepted.schedule
  exact ⟨o, options_ok_iff.2 made⟩

/-! ## Many events -/

/-- What every event keeps: the options are those of the running values, which are those of the
running configuration, and the prefix is still this one. -/
structure Running (tablePrefix : String) (s : Service σ) : Prop where
  settings : s.config.settings = .ok s.settings
  options : Configuration.options s.settings = .ok s.store.options
  tablePrefix : s.settings.text? "table_prefix" = some tablePrefix

theorem Running.adopt {s : Service σ} {tablePrefix : String} (running : s.Running tablePrefix)
    {now : Instant} {text? : Option String} {c : Configuration} {values : Settings} {o : Options}
    (accepted : s.Accepts text? c values) (made : Configuration.options values = .ok o) :
    (s.adopt now c values o).Running tablePrefix := by
  have unchanged : s.settings.get? "table_prefix" = values.get? "table_prefix" :=
    accepted.restart (.declare "table_prefix" .text .restart (some (.text "WR_"))
      "Prefix prepended to the table name") (.tail _ (.head _)) rfl
  refine ⟨accepted.validates, made, ?_⟩
  have same : values.text? "table_prefix" = s.settings.text? "table_prefix" := by
    rw [Settings.text?, Settings.text?, unchanged]
  exact same.trans running.tablePrefix

theorem receive_eq (s : Service σ) (line : String) :
    ∃ clock downstream db, s.receive line = { s with
      store := { s.store with clock := clock, downstream := downstream }
      database := db } := by
  unfold receive
  split
  · exact ⟨_, _, _, rfl⟩
  · split
    · exact ⟨_, _, _, rfl⟩
    · exact ⟨_, _, _, rfl⟩

theorem Running.after {s : Service σ} {tablePrefix : String} (running : s.Running tablePrefix)
    (e : Event) : (s.after e).Running tablePrefix := by
  cases e with
  | reload now path text? =>
    dsimp only [Service.after]
    split
    · next next taken =>
      obtain ⟨-, c, values, o, accepted, made, rfl⟩ := reloadFile_ok_iff.1 taken
      exact running.adopt accepted made
    · exact running
  | receive line =>
    obtain ⟨clock, downstream, db, same⟩ := receive_eq s line
    rw [Service.after, same]
    exact ⟨running.settings, running.options, running.tablePrefix⟩
  | stop => exact ⟨running.settings, running.options, running.tablePrefix⟩
  | advance time => exact ⟨running.settings, running.options, running.tablePrefix⟩
  | observe wall => exact ⟨running.settings, running.options, running.tablePrefix⟩

theorem Running.play {s : Service σ} {tablePrefix : String} (running : s.Running tablePrefix)
    (events : List Event) : (s.play events).Running tablePrefix :=
  List.foldlRecOn events Service.after running fun _ running e _ => running.after e

/-- Only the end of retention closes the scheduler, and nothing opens it again. -/
theorem closed_after (s : Service σ) (e : Event) :
    (s.after e).store.scheduler.closed = true ↔ s.store.scheduler.closed = true ∨ e = .stop := by
  cases e with
  | reload now path text? =>
    dsimp only [after]
    split
    · next next taken =>
      obtain ⟨open_, c, values, o, -, -, rfl⟩ := reloadFile_ok_iff.1 taken
      simp [adopt, open_]
    · simp
  | receive line =>
    obtain ⟨clock, downstream, db, same⟩ := receive_eq s line
    simp [after, same]
  | stop => simp [after, stop, Store.deactivate, Scheduler.shutDown]
  | advance time => simp [after, advance, Store.advance, Scheduler.after]
  | observe wall => simp [after, observe, Store.observe]

theorem closed_play (s : Service σ) (events : List Event) :
    (s.play events).store.scheduler.closed = true ↔
      s.store.scheduler.closed = true ∨ .stop ∈ events :=
  foldl_holds_iff (fun s => s.store.scheduler.closed = true) closed_after s events

theorem startOn_ok {db : Database} {c : Configuration} {clock : Clock} {emit : Emitter σ}
    {downstream : σ} {now : Instant} {s : Service σ}
    (started : startOn db c clock emit downstream now = .ok s) :
    s.config = c ∧ s.Running s.store.options.tablePrefix ∧ s.store.scheduler.closed = false := by
  simp only [startOn, bind_ok_iff, pure_ok, Except.ok.injEq] at started
  obtain ⟨values, valid, o, made, store, active, rfl⟩ := started
  simp only [Store.activate, Scheduler.arm, Scheduler.idle, Bool.false_eq_true, if_false, ok_bind,
    pure_ok, Except.ok.injEq] at active
  obtain rfl := active
  exact ⟨rfl, ⟨valid, made, (Options.ofSettings_ok_iff.1 (options_ok_iff.1 made)).2.1⟩, rfl⟩

/-- A service that was started on a new database was started on a database. -/
theorem startOn_of_start {c : Configuration} {clock : Clock} {emit : Emitter σ} {downstream : σ}
    {now : Instant} {s : Service σ} (started : start c clock emit downstream now = .ok s) :
    startOn s.database c clock emit downstream now = .ok s := by
  simp only [start, Configuration.storeSettings, bind_ok_iff, mapError_ok_iff, pure_ok,
    Except.ok.injEq] at started
  obtain ⟨values, valid, o, made, db, -, store, active, rfl⟩ := started
  simp only [startOn, bind_ok_iff, pure_ok, Except.ok.injEq]
  exact ⟨values, valid, o, made, store, active, rfl⟩

/-- What holds of a service that was started with a configuration, after these events. -/
structure InStep (c : Configuration) (events : List Event) (s : Service σ) : Prop where
  /-- The options are those of the running values. -/
  options : Configuration.options s.settings = .ok s.store.options
  /-- The prefix is the one of the configuration at the start. -/
  tablePrefix : ∃ values, c.settings = .ok values ∧
    values.text? "table_prefix" = some s.store.options.tablePrefix
  /-- Which reloads are taken over. -/
  accepted : ∀ now path text?, (∃ next, s.reloadFile path text? now = .ok next) ↔
    .stop ∉ events ∧ ∃ new values, s.Accepts text? new values
  /-- A reload that is taken over puts the values and the options of the new text in force. -/
  taken : ∀ now path text? next, s.reloadFile path text? now = .ok next →
    s.after (.reload now path text?) = next ∧ ∃ new values o, s.Accepts text? new values ∧
      Configuration.options values = .ok o ∧ next = s.adopt now new values o
  /-- A reload that is refused leaves everything as it was, also the timer. -/
  refused : ∀ now path text? e, s.reloadFile path text? now = .error e →
    s.after (.reload now path text?) = s

/-- **Values, options and timer stay in step.** From the start of a service on, whatever happens. -/
theorem in_step_of_startOn {db : Database} {c : Configuration} {clock : Clock} {emit : Emitter σ}
    {downstream : σ} {now : Instant} {first : Service σ}
    (started : startOn db c clock emit downstream now = .ok first) (events : List Event) :
    InStep c events (first.play events) := by
  obtain ⟨rfl, running, opened⟩ := startOn_ok started
  have later := running.play events
  have closed := closed_play first events
  simp only [opened, Bool.false_eq_true, false_or] at closed
  have same := (Options.ofSettings_ok_iff.1 (options_ok_iff.1 later.options)).2.1
  refine ⟨later.options, ⟨first.settings, running.settings, ?_⟩, fun now path text? => ?_,
    fun now path text? next taken => ⟨?_, ?_⟩, fun now path text? e refused => ?_⟩
  · rw [running.tablePrefix, ← same, later.tablePrefix]
  · simp only [reloadFile_ok_iff, ← closed, Bool.not_eq_true]
    constructor
    · rintro ⟨next, active, new, values, o, accepts, -⟩
      exact ⟨active, new, values, accepts⟩
    · rintro ⟨active, new, values, accepts⟩
      obtain ⟨o, made⟩ := accepts.options
      exact ⟨_, active, new, values, o, accepts, made, rfl⟩
  · rw [after, taken]
  · exact (reloadFile_ok_iff.1 taken).2
  · rw [after, refused]

/-- The table gets another name, then retention is stopped, and then no file is taken over. -/
theorem in_step_after_rename : ∃ first : Service (List String),
    start ⟨some (.table [("table_name", .string "sensor"), ("cleanup_rate_secs", .int 0)]), none⟩
      (.start fun _ => 0) Emitter.lines [] 0 = .ok first ∧
    InStep ⟨some (.table [("table_name", .string "sensor"), ("cleanup_rate_secs", .int 0)]), none⟩
      [.reload 5 "store.toml" (some "[store]\ntable_name = \"engine\"\n"), .stop]
      (first.play [.reload 5 "store.toml" (some "[store]\ntable_name = \"engine\"\n"), .stop]) := by
  have starts : (start ⟨some (.table [("table_name", .string "sensor"),
      ("cleanup_rate_secs", .int 0)]), none⟩ (.start fun _ => 0) Emitter.lines [] 0).toOption.isSome
      = true := by decide +kernel
  cases started : start ⟨some (.table [("table_name", .string "sensor"),
      ("cleanup_rate_secs", .int 0)]), none⟩ (.start fun _ => 0) Emitter.lines [] 0 with
  | error e =>
    rw [started] at starts
    cases starts
  | ok first => exact ⟨first, rfl, in_step_of_startOn (startOn_of_start started) _⟩

end RecordSink.Service
