import RecordSink.Proofs.Json.Characters
import RecordSink.Proofs.Service.Reloads
import RecordSink.Proofs.Text.Lines

/-! What a service forwards. It is decided by the lines of the input alone: neither the configuration,
nor the tables, nor what becomes of the records, nor retention, nor reloads leave a trace in it. -/
namespace RecordSink.Service

/-- What is forwarded for a line: nothing if it is blank or no batch, and else its records in JSON. -/
def forwarded? (line : String) : Option String :=
  if Text.isBlankText line then none else (Batch.parseLine line).toOption.map Batch.json

/-- The line that is received at an event. -/
def Event.line? : Event → Option String
  | .receive line => some line
  | _ => none

/-- What is forwarded is one line each time. -/
theorem unbroken_of_forwarded {line text : String} (forwards : forwarded? line = some text) :
    '\n' ∉ text.toList := by
  unfold forwarded? at forwards
  split at forwards
  · cases forwards
  · obtain ⟨batch, -, rfl⟩ := Option.map_eq_some_iff.1 forwards
    intro among
    rw [Batch.json, String.toList_ofList] at among
    exact absurd (Batch.unbroken_jsonChars batch _ among) (by decide)

/-- A service that forwards lines of JSON, and has forwarded these so far. -/
structure Forwarded (s : Service (List String)) (output : List String) : Prop where
  emit : s.store.emit = Emitter.lines
  downstream : s.store.downstream = output

theorem Forwarded.receive {s : Service (List String)} {output : List String}
    (forwarded : s.Forwarded output) (line : String) :
    (s.receive line).Forwarded (output ++ (forwarded? line).toList) := by
  obtain ⟨emit, downstream⟩ := forwarded
  unfold Service.receive forwarded?
  split
  · exact ⟨emit, by simp [downstream]⟩
  · cases Batch.parseLine line with
    | error e => exact ⟨emit, by simp [downstream, Except.toOption]⟩
    | ok batch =>
      have sent : (s.store.deliver batch s.database).2.1.downstream =
          Store.forward s.store.emit batch (s.store.deliver batch s.database).2.2.tables
            s.store.downstream := rfl
      refine ⟨emit, sent.trans ?_⟩
      rw [emit, downstream]
      rfl

theorem Forwarded.after {s : Service (List String)} {output : List String}
    (forwarded : s.Forwarded output) (e : Event) :
    (s.after e).Forwarded (output ++ (e.line?.bind forwarded?).toList) := by
  have same : output ++ (none : Option String).toList = output := List.append_nil output
  cases e with
  | receive line => exact forwarded.receive line
  | reload now path text? =>
    refine same.symm ▸ ?_
    dsimp only [Service.after]
    split
    · next next taken =>
      obtain ⟨-, c, values, o, -, -, rfl⟩ := reloadFile_ok_iff.1 taken
      exact ⟨forwarded.emit, forwarded.downstream⟩
    · exact forwarded
  | stop => exact same.symm ▸ ⟨forwarded.emit, forwarded.downstream⟩
  | advance time => exact same.symm ▸ ⟨forwarded.emit, forwarded.downstream⟩
  | observe wall => exact same.symm ▸ ⟨forwarded.emit, forwarded.downstream⟩

/-- What is forwarded over many events are the answers to the lines among them. -/
theorem Forwarded.play {s : Service (List String)} {output : List String}
    (forwarded : s.Forwarded output) (events : List Event) :
    (s.play events).Forwarded
      (output ++ (events.filterMap Event.line?).filterMap forwarded?) := by
  induction events generalizing s output with
  | nil => exact (List.append_nil output).symm ▸ forwarded
  | cons e rest ih =>
    have later := ih (forwarded.after e)
    rw [List.append_assoc] at later
    rw [List.filterMap_filterMap, List.filterMap_cons]
    rw [List.filterMap_filterMap] at later
    cases answer : e.line?.bind forwarded? <;> rw [answer] at later <;> exact later

theorem receiveAll_eq {σ : Type} (s : Service σ) (lines : List String) :
    s.receiveAll lines = s.play (lines.map .receive) := by
  rw [receiveAll, play, List.foldl_map]
  rfl

theorem forwarded_of_start {c : Configuration} {clock : Clock} {now : Instant}
    {s : Service (List String)} (started : start c clock Emitter.lines [] now = .ok s) :
    s.Forwarded [] := by
  simp only [start, bind_ok_iff, mapError_ok_iff, pure_ok, Except.ok.injEq] at started
  obtain ⟨values, -, o, -, db, -, store, active, rfl⟩ := started
  obtain ⟨scheduler, -, made⟩ := bind_ok_iff.1 active
  cases made
  exact ⟨rfl, rfl⟩

theorem forwarded_of_startFile {path : String} {text? : Option String} {clock : Clock}
    {now : Instant} {s : Service (List String)}
    (started : startFile path text? clock now = .ok s) : s.Forwarded [] := by
  obtain ⟨c, -, started⟩ := bind_ok_iff.1 started
  exact forwarded_of_start started

/-- The output of a run is that of the lines alone. -/
theorem run_eq {path : String} {text? : Option String} {clock : Clock} {now : Instant}
    {s : Service (List String)} (started : startFile path text? clock now = .ok s)
    (input : List UInt8) :
    run path text? clock now input = ⟨0, (Text.lines input).filterMap forwarded?, none⟩ := by
  have forwarded := (forwarded_of_startFile started).play ((Text.lines input).map .receive)
  have received : ((Text.lines input).map Event.receive).filterMap Event.line? =
      Text.lines input := by
    rw [List.filterMap_map]
    exact List.filterMap_some
  rw [run, started]
  dsimp only
  rw [receiveAll_eq, forwarded.downstream, received, List.nil_append]

/-- What the end of a run on an input says about a service. -/
structure Relays (s : Service (List String)) (input : List UInt8) (ending : Ending) : Prop where
  code : ending.code = 0
  complaint : ending.complaint = none
  /-- Each line before the first one that is no text has its own answer, in the order of the lines,
  if it is not blank and is a batch. -/
  output : ∃ ended last, Text.Lined input ended last ∧ ending.output =
    (((Text.cut ended last).takeWhile fun line => (Text.text? line).isSome).filterMap
      Text.text?).filterMap forwarded?
  /-- Each answer is one line. -/
  unbroken : ∀ text ∈ ending.output, '\n' ∉ text.toList
  /-- Whatever else happens before, between and after the lines, the answers are the same. -/
  undisturbed : ∀ events, events.filterMap Event.line? = Text.lines input →
    (s.play events).store.downstream = ending.output
  /-- Another configuration with which a service starts makes no difference. -/
  alike : ∀ path text? clock now, (∃ t, startFile path text? clock now = .ok t) →
    run path text? clock now input = ending

/-- **The output depends on the input alone.** Whatever the configuration with which a service is
started, and whatever bytes it is given. -/
theorem relays_of_startFile {path : String} {text? : Option String} {clock : Clock} {now : Instant}
    {s : Service (List String)} (started : startFile path text? clock now = .ok s)
    (input : List UInt8) : s.Relays input (run path text? clock now input) := by
  have whole := run_eq started input
  rw [whole]
  refine ⟨rfl, rfl, ?_, fun text among => ?_, fun events same => ?_, ?_⟩
  · obtain ⟨ended, last, lined⟩ := Text.exists_lined input
    exact ⟨ended, last, lined, by rw [Text.lines_of_lined lined]⟩
  · obtain ⟨line, -, forwards⟩ := List.mem_filterMap.1 among
    exact unbroken_of_forwarded forwards
  · rw [((forwarded_of_startFile started).play events).downstream, same, List.nil_append]
  · rintro path' text?' clock' now' ⟨t, other⟩
    exact run_eq other input

/-- Of a blank line, no batch, an empty batch and a record that cannot be stored, the latter two are
forwarded; bytes that are no text end the input. -/
theorem relays_between_lines :
    let text := some "[store]\ntable_name = \"t\"\n[database]\nmax_connections = 1\n"
    let input := "\t\r\n\x7b\n[ ]\n\x7b\"timestamp\": [\"byte\", 7]\x7d\r\n".toUTF8.toList ++
      [0xFF, 0x0A, 0x5B, 0x5D]
    ∃ s, startFile "store.toml" text (.start fun _ => 0) 0 = .ok s ∧
      s.Relays input (run "store.toml" text (.start fun _ => 0) 0 input) ∧
      (run "store.toml" text (.start fun _ => 0) 0 input).output =
        ["[]", "[\x7b\"timestamp\":\x7b\"type\":\"byte\",\"value\":7\x7d\x7d]"] := by
  intro text input
  have starts : (startFile "store.toml" text (.start fun _ => 0) 0).toOption.isSome = true := by
    decide +kernel
  obtain ⟨s, made⟩ := Option.isSome_iff_exists.1 starts
  have started := toOption_eq_some_iff.1 made
  exact ⟨s, started, relays_of_startFile started input, by decide +kernel⟩

end RecordSink.Service
