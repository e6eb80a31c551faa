import RecordSink.Retention.Plan
/-!
Schedulers on virtual time. A scheduler has at most one timer armed; arming again replaces it, and
after it was shut down nothing is ever armed again. Moving the time forward yields the runs that
fall due, in order of time; of runs at one time, the one whose wait began first comes first.
-/
namespace RecordSink

/-- A point in virtual time, in milliseconds. -/
abbrev Instant := Nat

/-- An armed timer. -/
structure Timer where
  /-- What a run does, captured when the timer was armed. -/
  plan : Plan
  /-- The time of the next run. -/
  due : Instant
  deriving DecidableEq, Repr

/-- A run of retention that fell due. -/
structure Firing where
  /-- The time of the run. -/
  time : Instant
  /-- What it does. -/
  plan : Plan
  deriving DecidableEq, Repr

namespace Firing

/-- Whether a run does not come after another. At one time the longer wait began first. -/
def comesBefore (a b : Firing) : Bool :=
  a.time < b.time || (a.time == b.time && b.plan.delay ≤ a.plan.delay)

/-- Runs in the order in which they come; those whose waits began and end together stay in their
order. -/
def inOrder (firings : List Firing) : List Firing :=
  firings.mergeSort comesBefore

/-- The database after the run. A run that fails is over all the same. -/
def perform (f : Firing) (db : Database) : Database :=
  ((Action.trim f.plan.table f.plan.keep).attempt db).2

/-- The database after several runs. -/
def performAll (firings : List Firing) (db : Database) : Database :=
  firings.foldl (fun db f => f.perform db) db

end Firing

namespace Timer

/-- A timer that is armed now. It sleeps for the delay of its plan. -/
def arm (now : Instant) (plan : Plan) : Timer :=
  ⟨plan, now + plan.delay⟩

/-- The run that a timer makes when its sleep is over. -/
def firing (t : Timer) : Firing :=
  ⟨t.due, t.plan⟩

/-- What becomes of a timer that has run: if its plan recurs it goes to sleep again, and otherwise
it is over. -/
def next? (t : Timer) : Option Timer :=
  if t.plan.recurring then some (arm t.due t.plan) else none

/-- The loop of a timer up to a time: the runs that it makes, and the timer that sleeps then. The
time would stand still in the loop of a recurring timer that does not sleep, so such a timer makes a
single run. -/
def loop (t : Timer) (time : Instant) : List Firing × Option Timer :=
  if time < t.due then ([], some t)
  else
    match t.next? with
    | none => ([t.firing], none)
    | some next =>
      if t.due < next.due then
        let (firings, rest) := next.loop time
        (t.firing :: firings, rest)
      else ([t.firing], some next)
termination_by time + 1 - t.due
decreasing_by
  unfold Instant at *
  omega

/-- The runs of a timer up to a time. -/
def firings (t : Timer) (time : Instant) : List Firing :=
  (t.loop time).1

/-- What is left of a timer after its runs up to a time, if it is not over. -/
def after (t : Timer) (time : Instant) : Option Timer :=
  (t.loop time).2

end Timer

/-- A scheduler of retention. -/
structure Scheduler where
  /-- The timer, if one is armed. -/
  armed : Option Timer
  /-- Whether the scheduler was shut down. -/
  closed : Bool
  deriving DecidableEq, Repr

namespace Scheduler

/-- A new scheduler. -/
def idle : Scheduler :=
  ⟨none, false⟩

/-- Arms a plan in place of what was armed before; without a plan nothing is armed. -/
def arm (s : Scheduler) (now : Instant) (plan : Option Plan) : Except ServiceError Scheduler :=
  if s.closed then .error .shutDown
  else .ok { s with armed := plan.map (Timer.arm now) }

/-- Nothing is armed any more. -/
def disarm (s : Scheduler) : Scheduler :=
  { s with armed := none }

/-- Whether a run is to come. -/
def isArmed (s : Scheduler) : Bool :=
  s.armed.isSome

/-- Nothing is armed any more, and never will be. -/
def shutDown (_ : Scheduler) : Scheduler :=
  ⟨none, true⟩

/-- The runs up to a time. -/
def firings (s : Scheduler) (time : Instant) : List Firing :=
  match s.armed with
  | none => []
  | some t => t.firings time

/-- The scheduler after its runs up to a time. -/
def after (s : Scheduler) (time : Instant) : Scheduler :=
  { s with armed := s.armed.bind fun t => t.after time }

end Scheduler
end RecordSink
