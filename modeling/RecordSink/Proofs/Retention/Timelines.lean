import Mathlib.Data.List.Induction
import RecordSink.Proofs.Retention.Armings

/-! Retention over whole histories. A scheduler is armed, disarmed and shut down at any times, and
anything may happen to the database in between. The runs that it makes are those of its armings, one
arming after the other: each runs at the multiples of its own delay, from the time it was made until
something ends it, with the table and the number of rows that it was made with. -/
namespace RecordSink

/-- A plan that options make has a delay, since without one there is no retention. -/
theorem Plan.delay_pos {naming : Naming} {o : Options} {plan : Plan}
    (made : Plan.ofOptions? naming o = some plan) : 0 < plan.delay := by
  unfold Plan.ofOptions? at made
  split at made
  · cases made
  · next delayed =>
    split at made <;> cases made
    exact Nat.pos_of_ne_zero delayed

/-! ## Runs -/

/-- A run of retention that was performed, and what came of it. -/
structure Run where
  /-- When it was, and the plan that it followed. -/
  firing : Firing
  /-- The database that it met. -/
  before : Database
  /-- What it answered. -/
  outcome : Except Failure Trimming
  /-- The database that it left. -/
  after : Database

/-- The run that a firing makes on a database. -/
def Firing.run (f : Firing) (db : Database) : Run :=
  let (outcome, after) := (Action.trim f.plan.table f.plan.keep).attempt db
  ⟨f, db, outcome, after⟩

/-- The runs that firings make one after the other. -/
def performEach : List Firing → Database → List Run
  | [], _ => []
  | f :: rest, db => f.run db :: performEach rest (f.run db).after

/-- Whatever comes of the runs, all of them are made. -/
theorem firings_performEach (firings : List Firing) (db : Database) :
    (performEach firings db).map Run.firing = firings := by
  induction firings generalizing db with
  | nil => rfl
  | cons f rest ih => exact congrArg (List.cons f) (ih _)

theorem mem_performEach {firings : List Firing} {db : Database} {r : Run}
    (made : r ∈ performEach firings db) : r = r.firing.run r.before := by
  induction firings generalizing db with
  | nil => cases made
  | cons f rest ih =>
    rcases List.mem_cons.1 made with rfl | later
    · rfl
    · exact ih later

/-- Each run meets what the one before it has left, so the last one leaves what all of them make. -/
theorem performAll_eq (firings : List Firing) (db : Database) :
    Firing.performAll firings db = ((performEach firings db).getLast?.map Run.after).getD db := by
  induction firings generalizing db with
  | nil => rfl
  | cons f rest ih =>
    refine (ih (f.run db).after).trans ?_
    rw [performEach, List.getLast?_cons]
    cases (performEach rest (f.run db).after).getLast? <;> rfl

/-! ## Timelines -/

/-- A scheduler on a database that others use too, with the runs that it has made. -/
structure Timeline where
  scheduler : Scheduler
  pool : Pool
  now : Instant
  runs : List Run

namespace Timeline

/-- A new scheduler. -/
def start (pool : Pool) (now : Instant) : Timeline :=
  ⟨.idle, pool, now, []⟩

/-- What follows an event. Arming a scheduler that was shut down is refused and changes nothing. -/
def after (t : Timeline) : Event → Timeline
  | .arm plan =>
    match t.scheduler.arm t.now plan with
    | .ok scheduler => { t with scheduler := scheduler }
    | .error _ => t
  | .disarm => { t with scheduler := t.scheduler.disarm }
  | .shutDown => { t with scheduler := t.scheduler.shutDown }
  | .advance span =>
    let firings := t.scheduler.firings (t.now + span)
    ⟨t.scheduler.after (t.now + span),
      { t.pool with database := Firing.performAll firings t.pool.database }, t.now + span,
      t.runs ++ performEach firings t.pool.database⟩
  | .request r => { t with pool := (t.pool.serve r).2 }

def play (t : Timeline) (events : List Event) : Timeline :=
  events.foldl after t

/-! ## Histories -/

/-- A scheduler that was shut down has nothing armed, and what is armed is due later. -/
structure Ready (t : Timeline) : Prop where
  closed : t.scheduler.closed = true → t.scheduler.armed = none
  armed : ∀ timer, t.scheduler.armed = some timer → 0 < timer.plan.delay ∧ t.now < timer.due

/-- The runs that are still to come in a history: those of what is armed, for as long as the
scheduler is left to itself, and those of what will be armed. -/
def upcoming (t : Timeline) (events : List Event) : List Firing :=
  (t.scheduler.armed.elim [] fun timer =>
    timer.firings (inForceUntil t.now events)) ++
  if t.scheduler.closed then [] else (armings t.now events).flatMap Arming.firings

theorem Ready.after {t : Timeline} (ready : t.Ready) {e : Event}
    (positive : ∀ plan, e = .arm (some plan) → 0 < plan.delay) : (t.after e).Ready := by
  cases e with
  | arm plan =>
    cases closed : t.scheduler.closed with
    | true => simpa [Timeline.after, Scheduler.arm, closed] using ready
    | false =>
      refine ⟨?_, ?_⟩
      · simp [Timeline.after, Scheduler.arm, closed]
      · cases plan with
        | none => simp [Timeline.after, Scheduler.arm, closed]
        | some plan =>
          have longer := positive plan rfl
          simpa [Timeline.after, Scheduler.arm, closed, Timer.arm] using longer
  | disarm =>
    refine ⟨fun _ => rfl, fun timer armed => ?_⟩
    cases armed
  | shutDown =>
    refine ⟨fun _ => rfl, fun timer armed => ?_⟩
    cases armed
  | advance span =>
    refine ⟨fun closed => ?_, fun timer left => ?_⟩
    · have none_armed := ready.closed closed
      simp [Timeline.after, Scheduler.after, none_armed]
    · obtain ⟨before, armed, rest⟩ := Option.bind_eq_some_iff.1 left
      have positive := (ready.armed before armed).1
      exact ⟨Timer.plan_of_after timer rest ▸ positive, Timer.lt_due_of_after positive timer rest⟩
  | request r => exact ⟨ready.closed, ready.armed⟩

/-- What has no time to run does not run. -/
theorem Ready.silent {t : Timeline} (ready : t.Ready) {e : Event} (ends : e.leaves = false)
    (events : List Event) : (t.scheduler.armed.elim [] fun timer =>
      timer.firings (inForceUntil t.now (e :: events))) = [] := by
  rw [inForceUntil_ends ends]
  cases armed : t.scheduler.armed with
  | none => rfl
  | some timer =>
    exact Timer.firings_asleep (ready.armed timer armed).2

/-- One event makes the runs that were to come first. -/
theorem upcoming_cons {t : Timeline} (ready : t.Ready) {e : Event} (events : List Event)
    (positive : ∀ plan, e = .arm (some plan) → 0 < plan.delay) :
    ∃ runs, (t.after e).runs = t.runs ++ runs ∧
      t.upcoming (e :: events) = runs.map Run.firing ++ (t.after e).upcoming events := by
  cases e with
  | arm plan =>
    have silent := ready.silent (e := .arm plan) rfl events
    refine ⟨[], ?_, ?_⟩
    · dsimp only [Timeline.after]
      split <;> exact (List.append_nil _).symm
    rw [upcoming, silent]
    cases closed : t.scheduler.closed with
    | true => simp [upcoming, Timeline.after, Scheduler.arm, closed, ready.closed closed]
    | false =>
      cases plan with
      | none => simp [upcoming, Timeline.after, Scheduler.arm, closed, armings, Event.span]
      | some plan =>
        have first : (Timer.arm t.now plan).firings (inForceUntil t.now events) =
            Arming.firings ⟨plan, t.now, inForceUntil t.now events⟩ :=
          firings_eq_arming (t := .arm t.now plan) (positive plan rfl) t.now _ rfl
        simp [upcoming, Timeline.after, Scheduler.arm, closed, armings, first]
  | disarm =>
    refine ⟨[], (List.append_nil _).symm, ?_⟩
    rw [upcoming, ready.silent rfl events]
    rfl
  | shutDown =>
    refine ⟨[], (List.append_nil _).symm, ?_⟩
    rw [upcoming, ready.silent rfl events]
    simp [upcoming, Timeline.after, Scheduler.shutDown, armings]
  | advance span =>
    refine ⟨_, rfl, ?_⟩
    rw [firings_performEach, upcoming, inForceUntil_leaves rfl]
    cases armed : t.scheduler.armed with
    | none =>
      simp [upcoming, Timeline.after, Scheduler.after, Scheduler.firings, armings, armed, Event.span]
    | some timer =>
      have split := Timer.firings_split (ready.armed timer armed).1
        (Nat.le_add_right (t.now + span) (elapsed (events.takeWhile Event.leaves)))
      simp [upcoming, Timeline.after, Scheduler.after, Scheduler.firings, armings, armed, Event.span,
        inForceUntil, split]
  | request r =>
    refine ⟨[], (List.append_nil _).symm, ?_⟩
    rw [upcoming, inForceUntil_leaves rfl]
    rfl

/-- The runs of a whole history are those that were to come. -/
theorem runs_play {t : Timeline} (ready : t.Ready) {events : List Event}
    (positive : ∀ plan, .arm (some plan) ∈ events → 0 < plan.delay) :
    (t.play events).runs.map Run.firing = t.runs.map Run.firing ++ t.upcoming events := by
  induction events generalizing t with
  | nil =>
    have nothing : t.upcoming [] = [] := by
      cases armed : t.scheduler.armed with
      | none => simp [upcoming, armed, armings]
      | some timer =>
        have asleep := Timer.firings_asleep (ready.armed timer armed).2
        simp [upcoming, armed, armings, inForceUntil, elapsed, asleep]
    rw [nothing, List.append_nil]
    rfl
  | cons e events ih =>
    have here : ∀ plan, e = .arm (some plan) → 0 < plan.delay := fun plan same =>
      positive plan (same ▸ .head _)
    obtain ⟨runs, made, upcoming⟩ := upcoming_cons ready events here
    have later := ih (ready.after here) fun plan among => positive plan (.tail _ among)
    rw [upcoming, ← List.append_assoc, ← List.map_append, ← made]
    exact later

theorem play_concat (t : Timeline) (events : List Event) (e : Event) :
    t.play (events ++ [e]) = (t.play events).after e := by
  rw [play, List.foldl_append]
  rfl

theorem ready_play {t : Timeline} (ready : t.Ready) {events : List Event}
    (positive : ∀ plan, .arm (some plan) ∈ events → 0 < plan.delay) : (t.play events).Ready :=
  List.foldlRecOn events after ready fun _ ready _ among =>
    ready.after fun plan same => positive plan (same ▸ among)

/-- What is armed was armed last, and nothing has ended that. -/
theorem last_armed {t : Timeline} (ready : t.Ready) (idle : t.scheduler.armed = none)
    {events : List Event} (positive : ∀ plan, .arm (some plan) ∈ events → 0 < plan.delay)
    {timer : Timer} (armed : (t.play events).scheduler.armed = some timer) :
    ∃ before rest, events = before ++ .arm (some timer.plan) :: rest ∧
      ∀ e ∈ rest, e.leaves = true := by
  induction events using List.reverseRecOn generalizing timer with
  | nil => cases idle.symm.trans armed
  | append_singleton events e ih =>
    have positive' : ∀ plan, .arm (some plan) ∈ events → 0 < plan.delay := fun plan among =>
      positive plan (List.mem_append_left _ among)
    have so_far := ready_play ready positive'
    rw [play_concat] at armed
    have earlier : e.leaves = true → ∀ first : Timer, first.plan = timer.plan →
        (t.play events).scheduler.armed = some first →
        ∃ before rest, events ++ [e] = before ++ .arm (some timer.plan) :: rest ∧
          ∀ e ∈ rest, e.leaves = true := by
      intro leaves first same armed
      obtain ⟨before, rest, rfl, alone⟩ := ih positive' armed
      refine ⟨before, rest ++ [e], ?_, ?_⟩
      · rw [same, List.append_assoc, List.cons_append]
      · rw [List.forall_mem_append]
        exact ⟨alone, List.forall_mem_singleton.2 leaves⟩
    cases e with
    | arm plan =>
      cases closed : (t.play events).scheduler.closed with
      | true => simp [after, Scheduler.arm, closed, so_far.closed closed] at armed
      | false =>
        simp only [after, Scheduler.arm, closed, Bool.false_eq_true, if_false] at armed
        obtain ⟨plan', rfl, rfl⟩ := Option.map_eq_some_iff.1 armed
        exact ⟨events, [], rfl, nofun⟩
    | disarm => cases armed
    | shutDown => cases armed
    | advance span =>
      obtain ⟨first, armed', left⟩ := Option.bind_eq_some_iff.1 armed
      exact earlier rfl first (Timer.plan_of_after timer left).symm armed'
    | request r => exact earlier rfl timer rfl armed

/-- Each run follows the plan of its firing. -/
def Performed (t : Timeline) : Prop :=
  ∀ r ∈ t.runs, r = r.firing.run r.before

theorem Performed.after {t : Timeline} (performed : t.Performed) (e : Event) :
    (t.after e).Performed := by
  cases e with
  | arm plan =>
    dsimp only [Timeline.after]
    split <;> exact performed
  | advance span =>
    exact fun r made => (List.mem_append.1 made).elim (performed r) mem_performEach
  | disarm => exact performed
  | shutDown => exact performed
  | request r => exact performed

theorem performed_play {t : Timeline} (performed : t.Performed) (events : List Event) :
    (t.play events).Performed :=
  List.foldlRecOn events after performed fun _ performed e _ => performed.after e

/-- Nothing runs and nothing is armed any more after the scheduler was shut down. -/
theorem closed_play {t : Timeline} (closed : t.scheduler = ⟨none, true⟩) (events : List Event) :
    (t.play events).scheduler = ⟨none, true⟩ ∧ (t.play events).runs = t.runs := by
  have step : ∀ u : Timeline, u.scheduler = ⟨none, true⟩ ∧ u.runs = t.runs → ∀ e ∈ events,
      (u.after e).scheduler = ⟨none, true⟩ ∧ (u.after e).runs = t.runs := by
    rintro u ⟨closed, same⟩ e -
    cases e <;> simp [after, Scheduler.arm, Scheduler.disarm, Scheduler.shutDown, Scheduler.after,
      Scheduler.firings, performEach, closed, same]
  exact List.foldlRecOn events after ⟨closed, rfl⟩ step

/-- What the runs of a history are, when it begins with a new scheduler. -/
structure Timely (pool : Pool) (now : Instant) (events : List Event) : Prop where
  /-- All runs are those of the armings, one arming after the other. -/
  runs : ((start pool now).play events).runs.map Run.firing =
    (armings now events).flatMap Arming.firings
  /-- Every arming is made by an event before any shutdown, and stays in force until the next one
  that does not leave the scheduler to itself. -/
  armings : ∀ a, a ∈ armings now events ↔ ∃ before rest,
    events = before ++ .arm (some a.plan) :: rest ∧ .shutDown ∉ before ∧
      a.start = now + elapsed before ∧ a.stop = inForceUntil a.start rest
  /-- An arming runs after its delay, and if it recurs at every further multiple of the delay, until
  its end. -/
  instants : ∀ a ∈ Timeline.armings now events, ∀ f, f ∈ a.firings ↔ f.plan = a.plan ∧
    ∃ k, 0 < k ∧ (k = 1 ∨ a.plan.recurring = true) ∧ f.time = a.start + k * a.plan.delay ∧
      f.time ≤ a.stop
  /-- No two runs are at one time. -/
  ordered : ((start pool now).play events).runs.Pairwise fun r s => r.firing.time < s.firing.time
  /-- Every run follows the plan that was armed, whatever came of the runs before it. -/
  performed : ∀ r ∈ ((start pool now).play events).runs,
    (Action.trim r.firing.plan.table r.firing.plan.keep).attempt r.before = (r.outcome, r.after)
  /-- What is pending is the last arming, and it runs later. -/
  pending : ∀ timer, ((start pool now).play events).scheduler.armed = some timer →
    ((start pool now).play events).now < timer.due ∧ ∃ before rest,
      events = before ++ .arm (some timer.plan) :: rest ∧ ∀ e ∈ rest, e.leaves = true
  /-- After a shutdown nothing is armed, arming is refused, and nothing runs. -/
  shutDown : ∀ before rest, events = before ++ .shutDown :: rest →
    ((start pool now).play events).scheduler.armed = none ∧
      (∀ plan, ((start pool now).play events).scheduler.arm
        ((start pool now).play events).now plan = .error .shutDown) ∧
      ((start pool now).play events).runs = ((start pool now).play before).runs

/-- **The runs of a scheduler.** Whatever is armed, disarmed and shut down at whatever times, and
whatever happens to the database. -/
theorem timely (pool : Pool) (now : Instant) (events : List Event)
    (positive : ∀ plan, .arm (some plan) ∈ events → 0 < plan.delay) : Timely pool now events := by
  have ready : (start pool now).Ready := ⟨nofun, nofun⟩
  have runs : ((start pool now).play events).runs.map Run.firing =
    (armings now events).flatMap Arming.firings := runs_play ready positive
  have delays : ∀ a ∈ armings now events, 0 < a.plan.delay := by
    intro a made
    obtain ⟨before, rest, rfl, -⟩ := mem_armings_iff.1 made
    exact positive a.plan (List.mem_append_right _ (.head _))
  have so_far := ready_play ready positive
  refine {
    runs := runs
    armings := fun a => mem_armings_iff
    instants := fun a made f => Arming.mem_firings_iff (delays a made)
    ordered := ?ordered
    performed := fun r made => ?performed
    pending := fun timer armed =>
      ⟨(so_far.armed timer armed).2, last_armed ready rfl positive armed⟩
    shutDown := fun before rest split => ?shutDown }
  case ordered =>
    have ordered := pairwise_firings_armings delays
    rw [← runs, List.pairwise_map] at ordered
    exact ordered
  case performed =>
    have follows := performed_play (t := start pool now) nofun events r made
    rw [follows]
    rfl
  case shutDown =>
    subst split
    have ended := closed_play (t := ((start pool now).play before).after .shutDown) rfl rest
    rw [play, List.foldl_append]
    refine ⟨congrArg Scheduler.armed ended.1, fun plan => ?_, ended.2⟩
    exact congrArg (fun scheduler : Scheduler => scheduler.arm _ plan) ended.1

/-- A recurring plan is replaced by that of options, which runs once before the shutdown. -/
theorem timely_after_rearming : Timely (Pool.empty 1) 0
    [.arm (some ⟨"t", 2, 10, true⟩), .advance 25, .request (.inject "CONNECT" 1), .advance 5,
      .arm (Plan.ofOptions? .standard ⟨"u", "WR_", 10, 0, .once⟩), .advance 30, .shutDown,
      .arm (some ⟨"v", 0, 10, true⟩), .advance 100] :=
  timely _ _ _ (by
    intro plan armed
    simp only [List.mem_cons, Event.arm.injEq, Option.some.injEq, reduceCtorEq, List.not_mem_nil,
      false_or, or_false] at armed
    rcases armed with rfl | made | rfl
    · decide
    · exact Plan.delay_pos made.symm
    · decide)

example : (((start (Pool.empty 1) 0).play [.arm (some ⟨"t", 2, 10, true⟩), .advance 25,
    .request (.inject "CONNECT" 1), .advance 5,
    .arm (Plan.ofOptions? .standard ⟨"u", "WR_", 10, 0, .once⟩), .advance 30, .shutDown,
    .arm (some ⟨"v", 0, 10, true⟩), .advance 100]).runs.map fun r =>
      (r.firing.time, r.firing.plan.table)) = [(10, "t"), (20, "t"), (30, "t"), (40, "WR_u")] := by
  decide +kernel

end Timeline
end RecordSink
