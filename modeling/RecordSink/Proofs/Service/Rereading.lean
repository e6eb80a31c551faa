import RecordSink.Proofs.Service.Reloads
import RecordSink.Proofs.Toml.Sameness

/-! Reading the configuration in force once more. A running service takes over the text that it runs
with again, and nothing changes, unless a float that is not a number stands in the section of the
database: such a section differs from itself. -/
namespace RecordSink.Service

variable {σ : Type}

/-- The text in force after an event, if this one was in force before it. -/
def textAfter (s : Service σ) (text : String) : Event → String
  | .reload now path (some new) =>
    match s.reloadFile path (some new) now with
    | .ok _ => new
    | .error _ => text
  | _ => text

/-- The text in force after events: the last one that was taken over, or this one. -/
def textInForce (s : Service σ) (text : String) : List Event → String
  | [] => text
  | e :: rest => (s.after e).textInForce (s.textAfter text e) rest

/-- The running configuration is always the one that the text in force says. -/
theorem ofText?_textAfter {s : Service σ} {text : String}
    (read : Configuration.ofText? text = some s.config) (e : Event) :
    Configuration.ofText? (s.textAfter text e) = some (s.after e).config := by
  cases e with
  | reload now path text? =>
    cases taken : s.reloadFile path text? now with
    | error e =>
      cases text? <;> simp only [textAfter, after, taken] <;> exact read
    | ok next =>
      obtain ⟨-, c, values, o, accepted, -, rfl⟩ := reloadFile_ok_iff.1 taken
      obtain ⟨new, rfl, parses⟩ := accepted.parses
      simp only [textAfter, after, taken]
      exact parses
  | receive line =>
    obtain ⟨clock, downstream, db, same⟩ := receive_eq s line
    rw [textAfter, after, same]
    · exact read
    · rintro now path new ⟨⟩
  | stop => exact read
  | advance time => exact read
  | observe wall => exact read

theorem ofText?_textInForce {s : Service σ} {text : String}
    (read : Configuration.ofText? text = some s.config) (events : List Event) :
    Configuration.ofText? (s.textInForce text events) = some (s.play events).config := by
  induction events generalizing s text with
  | nil => exact read
  | cons e rest ih => exact ih (ofText?_textAfter read e)

section Rereading

variable {s : Service σ} {tablePrefix text : String} (running : s.Running tablePrefix)
  (read : Configuration.ofText? text = some s.config)
include running read

/-- The text that says what is running is acceptable, with the values that are running, exactly if
the section of the database is the same as itself. -/
theorem Running.accepts_iff {c : Configuration} {values : Settings} :
    s.Accepts (some text) c values ↔
      c = s.config ∧ values = s.settings ∧ s.config.database.any Toml.hasNaN = false := by
  constructor
  · intro accepted
    obtain ⟨_, ⟨⟩, parses⟩ := accepted.parses
    cases read.symm.trans parses
    cases running.settings.symm.trans accepted.validates
    have self := accepted.database
    rw [Toml.sameSections_self, Bool.not_eq_true'] at self
    exact ⟨rfl, rfl, self⟩
  · rintro ⟨rfl, rfl, numbers⟩
    refine ⟨⟨text, rfl, read⟩, ?_, running.settings, fun _ _ _ => rfl, s.store.options.schedule, ?_⟩
    · rw [Toml.sameSections_self, numbers, Bool.not_false]
    · exact (Options.ofSettings_ok_iff.1 (options_ok_iff.1 running.options)).2.2.2.2

theorem Running.reloads_iff (active : s.store.scheduler.closed = false) {path : String}
    {now : Instant} : (∃ next, s.reloadFile path (some text) now = .ok next) ↔
      s.config.database.any Toml.hasNaN = false := by
  simp only [reloadFile_ok_iff, running.accepts_iff read]
  constructor
  · rintro ⟨next, -, c, values, o, ⟨-, -, numbers⟩, -⟩
    exact numbers
  · intro numbers
    exact ⟨_, active, _, _, _, ⟨rfl, rfl, numbers⟩, running.options, rfl⟩

/-- Whether it is taken over or not, the text that says what is running changes neither options nor
values. -/
theorem Running.kept_by_reload {path : String} {now : Instant} :
    (s.after (.reload now path (some text))).store.options = s.store.options ∧
      (s.after (.reload now path (some text))).settings = s.settings := by
  rw [Service.after]
  cases taken : s.reloadFile path (some text) now with
  | error e => exact ⟨rfl, rfl⟩
  | ok next =>
    obtain ⟨-, c, values, o, accepted, made, rfl⟩ := reloadFile_ok_iff.1 taken
    obtain ⟨rfl, rfl, -⟩ := (running.accepts_iff read).1 accepted
    cases running.options.symm.trans made
    exact ⟨rfl, rfl⟩

end Rereading

/-- What reading a text once more comes to. -/
structure Rereads (s : Service σ) (text : String) : Prop where
  /-- It is taken over exactly if all floats in its section of the database are numbers. -/
  accepted : ∃ c, Configuration.ofText? text = some c ∧ ∀ path now,
    (∃ next, s.reloadFile path (some text) now = .ok next) ↔ c.database.any Toml.hasNaN = false
  /-- Whether it is taken over or not, options and values stay as they are. -/
  kept : ∀ path now,
    (s.after (.reload now path (some text))).store.options = s.store.options ∧
      (s.after (.reload now path (some text))).settings = s.settings

/-- **The text in force can be read again.** From the start of a service on, whatever happens until
retention is stopped, the text that is in force is taken over once more, and nothing changes, unless
its section of the database holds a float that is not a number. -/
theorem rereads_text_in_force {db : Database} {text : String} {c : Configuration} {clock : Clock}
    {emit : Emitter σ} {downstream : σ} {now : Instant} {first : Service σ}
    (parses : Configuration.ofText? text = some c)
    (started : startOn db c clock emit downstream now = .ok first) {events : List Event}
    (active : .stop ∉ events) :
    (first.play events).Rereads (first.textInForce text events) := by
  obtain ⟨rfl, running, opened⟩ := startOn_ok started
  have later := running.play events
  have read := ofText?_textInForce parses events
  have closed := closed_play first events
  simp only [opened, Bool.false_eq_true, false_or, active, iff_false, Bool.not_eq_true] at closed
  exact ⟨⟨_, read, fun _ _ => later.reloads_iff read closed⟩, fun _ _ => later.kept_by_reload read⟩

/-- A service takes over another table, and then that text is in force and can be read again. -/
theorem rereads_after_rename :
    let text := "[store]\ntable_name = \"sensor\"\n[database]\nratio = 0.5\n"
    let renamed := "database = \x7bratio = 0.5\x7d\nstore.table_name = 'engine'"
    let events : List Event := [.reload 5 "store.toml" (some renamed), .receive "[]"]
    ∃ c, ∃ first : Service (List String), Configuration.ofText? text = some c ∧
      startOn (.empty 4) c (.start fun _ => 0) Emitter.lines [] 0 = .ok first ∧
      .stop ∉ events ∧ first.textInForce text events = renamed ∧
      (first.play events).Rereads (first.textInForce text events) := by
  intro text renamed events
  have starts : ((Configuration.ofText? text).bind fun c => (startOn (.empty 4) c
      (.start fun _ => 0) Emitter.lines [] 0).toOption).any
      (fun first => first.textInForce text events = renamed) = true := by decide +kernel
  obtain ⟨first, both, taken⟩ := (Option.any_eq_true _ _).1 starts
  obtain ⟨c, parses, made⟩ := Option.bind_eq_some_iff.1 both
  have started := toOption_eq_some_iff.1 made
  have active : .stop ∉ events := by simp [events]
  exact ⟨c, first, parses, started, active, of_decide_eq_true taken,
    rereads_text_in_force parses started active⟩

/-- A service that was started with a float that is not a number in the section of the database does
not take over its own text. -/
theorem nan_text_refused :
    let text := "[store]\ntable_name = \"t\"\n[database]\nx = nan\n"
    ∃ c, ∃ first : Service (List String), Configuration.ofText? text = some c ∧
      startOn (.empty 64) c (.start fun _ => 0) Emitter.lines [] 0 = .ok first ∧
      ∀ next, first.reloadFile "store.toml" (some text) 0 ≠ .ok next := by
  intro text
  have starts : ((Configuration.ofText? text).bind fun c => (startOn (.empty 64) c
      (.start fun _ => 0) Emitter.lines [] 0).toOption).any
      (fun first => first.config.database.any Toml.hasNaN) = true := by decide +kernel
  obtain ⟨first, both, nan⟩ := (Option.any_eq_true _ _).1 starts
  obtain ⟨c, parses, made⟩ := Option.bind_eq_some_iff.1 both
  have started := toOption_eq_some_iff.1 made
  refine ⟨c, first, parses, started, fun next taken => ?_⟩
  obtain ⟨rfl, running, active⟩ := startOn_ok started
  rw [(running.reloads_iff parses active).1 ⟨next, taken⟩] at nan
  cases nan

end RecordSink.Service
