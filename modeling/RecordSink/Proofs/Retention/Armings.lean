import RecordSink.Database.Pool
import RecordSink.Proofs.Retention.Timers

/-! Armings in a history. What arms a scheduler stays in force until something ends it, and the runs
that are expected of it are at the multiples of its wait until then. -/
namespace RecordSink.Timeline

/-- What can happen to a scheduler and its database. -/
inductive Event where
  | arm (plan : Option Plan)
  | disarm
  | shutDown
  | advance (span : Nat)
  /-- A request of a client to the database. Faults are injected this way. -/
  | request (r : Request)

namespace Event

/-- The time that an event takes. -/
def span : Event → Nat
  | advance span => span
  | _ => 0

/-- Whether an event leaves the scheduler to itself. -/
def leaves : Event → Bool
  | advance _ => true
  | request _ => true
  | _ => false

end Event

/-- The time that events take. -/
def elapsed : List Event → Nat
  | [] => 0
  | e :: rest => e.span + elapsed rest

/-! ## What is armed, and for how long -/

/-- How long what is armed now stays in force: as long as events leave the scheduler to itself. -/
def inForceUntil (now : Instant) (events : List Event) : Instant :=
  now + elapsed (events.takeWhile Event.leaves)

/-- A plan that was armed, with the times at which it was armed and at which that ended. -/
structure Arming where
  plan : Plan
  start : Instant
  stop : Instant

/-- The runs that are expected of an arming: after its delay, and if it recurs, at every further
multiple of the delay, but none after its end. -/
def Arming.firings (a : Arming) : List Firing :=
  let delays := (a.stop - a.start) / a.plan.delay
  (List.range' 1 (if a.plan.recurring then delays else min 1 delays)).map fun k =>
    ⟨a.start + k * a.plan.delay, a.plan⟩

/-- The armings of a history that begins at this time. Each is in force until the scheduler is armed
anew, disarmed or shut down, and after that nothing is armed. -/
def armings (now : Instant) : List Event → List Arming
  | [] => []
  | .arm (some plan) :: rest =>
    ⟨plan, now, inForceUntil now rest⟩ :: armings now rest
  | .shutDown :: _ => []
  | e :: rest => armings (now + e.span) rest

theorem inForceUntil_leaves {e : Event} (leaves : e.leaves = true) (now : Instant)
    (events : List Event) :
    inForceUntil now (e :: events) = inForceUntil (now + e.span) events := by
  rw [inForceUntil, List.takeWhile_cons_of_pos leaves, elapsed, ← Nat.add_assoc, inForceUntil]

theorem inForceUntil_ends {e : Event} (ends : e.leaves = false) (now : Instant)
    (events : List Event) : inForceUntil now (e :: events) = now := by
  have stops : ¬e.leaves = true := by simp [ends]
  rw [inForceUntil, List.takeWhile_cons_of_neg stops]
  rfl

/-- An arming is made by its event, unless the scheduler was shut down before, and lasts as long as
the events after it leave the scheduler to itself. -/
theorem mem_armings_iff {a : Arming} {now : Instant} {events : List Event} :
    a ∈ armings now events ↔ ∃ before rest, events = before ++ .arm (some a.plan) :: rest ∧
      .shutDown ∉ before ∧ a.start = now + elapsed before ∧
      a.stop = inForceUntil a.start rest := by
  induction events generalizing now with
  | nil => simp [armings]
  | cons e events ih =>
    -- The first event made the arming, or it is one of the events before it.
    have first : (∃ before rest, e :: events = before ++ .arm (some a.plan) :: rest ∧
          .shutDown ∉ before ∧ a.start = now + elapsed before ∧
          a.stop = inForceUntil a.start rest) ↔
        (e = .arm (some a.plan) ∧ a.start = now ∧
          a.stop = inForceUntil a.start events) ∨
        (e ≠ .shutDown ∧ a ∈ armings (now + e.span) events) := by
      rw [ih]
      constructor
      · rintro ⟨before, rest, same, opened, start, stop⟩
        cases before with
        | nil =>
          cases same
          exact .inl ⟨rfl, start, stop⟩
        | cons d before =>
          cases same
          rw [List.mem_cons, not_or] at opened
          rw [elapsed, ← Nat.add_assoc] at start
          exact .inr ⟨Ne.symm opened.1, before, rest, rfl, opened.2, start, stop⟩
      · rintro (⟨rfl, start, stop⟩ | ⟨other, before, rest, rfl, opened, start, stop⟩)
        · exact ⟨[], events, rfl, nofun, start, stop⟩
        · refine ⟨e :: before, rest, rfl, ?_, ?_, stop⟩
          · rw [List.mem_cons, not_or]
            exact ⟨Ne.symm other, opened⟩
          · rw [elapsed, ← Nat.add_assoc]
            exact start
    rw [first]
    cases e with
    | arm plan =>
      cases plan with
      | none => simp [armings, Event.span]
      | some plan =>
        obtain ⟨plan', start, stop⟩ := a
        simp only [armings, List.mem_cons, Arming.mk.injEq, Event.arm.injEq, Option.some.injEq,
          Event.span, Nat.add_zero, ne_eq, reduceCtorEq, not_false_eq_true, true_and]
        refine or_congr ⟨?_, ?_⟩ Iff.rfl
        · rintro ⟨rfl, rfl, rfl⟩
          exact ⟨rfl, rfl, rfl⟩
        · rintro ⟨rfl, rfl, rfl⟩
          exact ⟨rfl, rfl, rfl⟩
    | disarm => simp [armings]
    | shutDown => simp [armings]
    | advance span => simp [armings]
    | request r => simp [armings]

/-- An event that does not leave the scheduler to itself ends what was in force before it. -/
theorem inForceUntil_le {e : Event} (ends : e.leaves = false) (now : Instant)
    (before rest : List Event) : inForceUntil now (before ++ e :: rest) ≤ now + elapsed before := by
  induction before generalizing now with
  | nil => exact Nat.le_of_eq (inForceUntil_ends ends now rest)
  | cons d before ih =>
    rw [elapsed, ← Nat.add_assoc, List.cons_append]
    cases leaves : d.leaves with
    | true =>
      rw [inForceUntil_leaves leaves]
      exact ih (now + d.span)
    | false =>
      rw [inForceUntil_ends leaves, Nat.add_assoc]
      exact Nat.le_add_right ..

/-- An arming has ended when the next one is made. -/
theorem pairwise_armings (now : Instant) (events : List Event) :
    (armings now events).Pairwise fun a b => a.stop ≤ b.start := by
  have later : ∀ now events, ∀ b ∈ armings now events, inForceUntil now events ≤ b.start := by
    intro now events b made
    obtain ⟨before, rest, rfl, -, start, -⟩ := mem_armings_iff.1 made
    exact start ▸ inForceUntil_le rfl now before rest
  induction events generalizing now with
  | nil => exact .nil
  | cons e events ih =>
    cases e with
    | arm plan =>
      cases plan with
      | none => exact ih now
      | some plan => exact .cons (later now events) (ih now)
    | disarm => exact ih now
    | shutDown => exact .nil
    | advance span => exact ih _
    | request r => exact ih now

/-! ## The runs of an arming -/

private theorem le_delays_iff {start stop delay k : Nat} (positive : 0 < delay)
    (some_delay : 0 < k) : k ≤ (stop - start) / delay ↔ start + k * delay ≤ stop := by
  have longer : 0 < k * delay := Nat.mul_pos some_delay positive
  rw [Nat.le_div_iff_mul_le positive]
  omega

private theorem lt_count_iff {delays k : Nat} {recurring : Bool} :
    (1 ≤ k ∧ k < 1 + if recurring then delays else min 1 delays) ↔
      0 < k ∧ (k = 1 ∨ recurring = true) ∧ k ≤ delays := by
  cases recurring <;> simp <;> omega

theorem Arming.mem_firings_iff {a : Arming} {f : Firing} (positive : 0 < a.plan.delay) :
    f ∈ a.firings ↔ f.plan = a.plan ∧ ∃ k, 0 < k ∧ (k = 1 ∨ a.plan.recurring = true) ∧
      f.time = a.start + k * a.plan.delay ∧ f.time ≤ a.stop := by
  obtain ⟨time, plan⟩ := f
  simp only [Arming.firings, List.mem_map, List.mem_range'_1, Firing.mk.injEq, lt_count_iff]
  constructor
  · rintro ⟨k, ⟨some_delay, once, few⟩, rfl, rfl⟩
    exact ⟨rfl, k, some_delay, once, rfl, (le_delays_iff positive some_delay).1 few⟩
  · rintro ⟨rfl, k, some_delay, once, rfl, within⟩
    exact ⟨k, ⟨some_delay, once, (le_delays_iff positive some_delay).2 within⟩, rfl, rfl⟩

theorem Arming.pairwise_firings {a : Arming} (positive : 0 < a.plan.delay) :
    a.firings.Pairwise fun f g => f.time < g.time := by
  rw [Arming.firings, List.pairwise_map]
  refine List.Pairwise.imp (fun {j k} less => ?_) List.pairwise_lt_range'
  exact Nat.add_lt_add_left (Nat.mul_lt_mul_of_pos_right less positive) _

/-- No two runs of a history are at one time, since an arming has ended when the next one is made. -/
theorem pairwise_firings_armings {now : Instant} {events : List Event}
    (positive : ∀ a ∈ armings now events, 0 < a.plan.delay) :
    ((armings now events).flatMap Arming.firings).Pairwise fun f g => f.time < g.time := by
  rw [List.pairwise_flatMap]
  refine ⟨fun a made => Arming.pairwise_firings (positive a made), ?_⟩
  refine (pairwise_armings now events).imp_of_mem fun {a b} first second apart f run g run' => ?_
  obtain ⟨-, j, -, -, -, within⟩ := (Arming.mem_firings_iff (positive a first)).1 run
  obtain ⟨-, k, some_delay, -, time, -⟩ := (Arming.mem_firings_iff (positive b second)).1 run'
  have longer : 0 < k * b.plan.delay := Nat.mul_pos some_delay (positive b second)
  rw [time]
  exact Nat.lt_of_le_of_lt (Nat.le_trans within apart) (Nat.lt_add_of_pos_right longer)

/-! ## The runs of a timer -/

/-- A first delay is over by the end of the delays, or there is none. -/
private theorem delays_from_first {start stop delay : Nat} (positive : 0 < delay) :
    (stop - start) / delay =
      if stop < start + delay then 0 else (stop - (start + delay)) / delay + 1 := by
  split
  · exact Nat.div_eq_of_lt (by omega)
  · rw [Nat.div_eq_sub_div positive (by omega), Nat.sub_sub]

namespace Arming

variable {plan : Plan} {start stop : Instant}

/-- There is no run before the first delay is over. -/
theorem firings_early (positive : 0 < plan.delay) (early : stop < start + plan.delay) :
    firings ⟨plan, start, stop⟩ = [] := by
  have none_over := (delays_from_first positive).trans (if_pos early)
  simp [firings, none_over]

theorem firings_once (positive : 0 < plan.delay) (enough : start + plan.delay ≤ stop)
    (once : plan.recurring = false) :
    firings ⟨plan, start, stop⟩ = [⟨start + plan.delay, plan⟩] := by
  have one_over := (delays_from_first positive).trans (if_neg (Nat.not_lt.2 enough))
  simp [firings, once, one_over]

/-- After its first run a recurring arming goes on as one that was made then. -/
theorem firings_again (positive : 0 < plan.delay) (enough : start + plan.delay ≤ stop)
    (recurring : plan.recurring = true) : firings ⟨plan, start, stop⟩ =
      ⟨start + plan.delay, plan⟩ :: firings ⟨plan, start + plan.delay, stop⟩ := by
  have one_over := (delays_from_first positive).trans (if_neg (Nat.not_lt.2 enough))
  simp only [firings, recurring, if_true, one_over, List.range'_succ, List.map_cons, Nat.one_mul]
  rw [Nat.add_comm 1 1, ← List.map_add_range', List.map_map]
  refine congrArg _ (List.map_congr_left fun k _ => ?_)
  rw [Function.comp_apply, Nat.add_mul, Nat.one_mul, ← Nat.add_assoc]

end Arming

/-- A timer that goes to sleep at some time makes the runs of an arming that is made then, up to
every later time. -/
theorem firings_eq_arming {t : Timer} (positive : 0 < t.plan.delay) (start stop : Instant)
    (slept : t.due = start + t.plan.delay) :
    t.firings stop = Arming.firings ⟨t.plan, start, stop⟩ := by
  revert start
  unfold Timer.firings
  refine Timer.rounds stop positive ?asleep ?once ?again
  case asleep =>
    intro t positive asleep start slept
    rw [Timer.loop_asleep asleep, Arming.firings_early positive (slept ▸ asleep)]
  case once =>
    intro t positive due once start slept
    rw [Timer.loop_once due once, Arming.firings_once positive (slept ▸ due) once, Timer.firing,
      slept]
  case again =>
    -- What goes to sleep at the time of the run makes the runs of an arming that is made then.
    intro t positive due recurring rest start slept
    rw [Timer.loop_again positive due recurring, rest t.due rfl,
      Arming.firings_again positive (slept ▸ due) recurring, Timer.firing, ← slept]
    rfl

end RecordSink.Timeline
