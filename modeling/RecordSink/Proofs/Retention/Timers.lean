import RecordSink.Retention.Scheduler

/-! Timers, round by round. A timer sleeps, runs, and if its plan recurs goes to sleep again at the
time of its run. So what it does up to a time is what it does up to an earlier time, and then what
the timer does that is left by then; and what is left keeps the plan of the timer. -/
namespace RecordSink.Timer

variable {t : Timer} {time earlier later : Instant}

/-! ## One round -/

theorem next?_eq_none_iff : t.next? = none ↔ t.plan.recurring = false := by
  cases recurring : t.plan.recurring <;> simp [next?, recurring]

theorem next?_eq_some_iff {next : Timer} :
    t.next? = some next ↔ t.plan.recurring = true ∧ next = arm t.due t.plan := by
  cases recurring : t.plan.recurring <;> simp [next?, recurring, eq_comm]

/-- A timer does nothing until its sleep is over. -/
theorem loop_asleep (asleep : time < t.due) : t.loop time = ([], some t) := by
  rw [loop, if_pos asleep]

/-- A timer that does not recur runs once. -/
theorem loop_once (due : t.due ≤ time) (once : t.plan.recurring = false) :
    t.loop time = ([t.firing], none) := by
  rw [loop, if_neg (Nat.not_lt.2 due), next?_eq_none_iff.2 once]

/-- A timer that recurs runs, and goes on as one that goes to sleep at the time of its run. -/
theorem loop_again (positive : 0 < t.plan.delay) (due : t.due ≤ time)
    (recurring : t.plan.recurring = true) : t.loop time =
      (t.firing :: ((arm t.due t.plan).loop time).1, ((arm t.due t.plan).loop time).2) := by
  have sleeps : t.due < (arm t.due t.plan).due := Nat.lt_add_of_pos_right positive
  rw [loop, if_neg (Nat.not_lt.2 due), next?_eq_some_iff.2 ⟨recurring, rfl⟩]
  exact if_pos sleeps

theorem firings_asleep (asleep : time < t.due) : t.firings time = [] :=
  congrArg Prod.fst (loop_asleep asleep)

/-! ## All rounds -/

/-- Induction on the rounds up to a time of a timer that sleeps between them. It is asleep then, or
is over, or recurs and goes on as the timer that goes to sleep at the time of its run. -/
@[elab_as_elim]
theorem rounds {motive : Timer → Prop} (time : Instant) (positive : 0 < t.plan.delay)
    (asleep : ∀ t : Timer, 0 < t.plan.delay → time < t.due → motive t)
    (once : ∀ t : Timer, 0 < t.plan.delay → t.due ≤ time → t.plan.recurring = false → motive t)
    (again : ∀ t : Timer, 0 < t.plan.delay → t.due ≤ time → t.plan.recurring = true →
      motive (arm t.due t.plan) → motive t) : motive t := by
  induction t using loop.induct time with
  | case1 t early => exact asleep t positive early
  | case2 t late ended =>
    exact once t positive (Nat.not_lt.1 late) (next?_eq_none_iff.1 ended)
  | case3 t late next slept later firings rest looped ih =>
    obtain ⟨recurring, rfl⟩ := next?_eq_some_iff.1 slept
    exact again t positive (Nat.not_lt.1 late) recurring (ih positive)
  | case4 t late next slept awake =>
    obtain ⟨-, rfl⟩ := next?_eq_some_iff.1 slept
    exact absurd (Nat.lt_add_of_pos_right positive) awake

/-- The runs up to a time are those up to an earlier time, and those of what is left by then. -/
theorem firings_split (positive : 0 < t.plan.delay) (order : earlier ≤ later) :
    t.firings later =
      t.firings earlier ++ (t.after earlier).elim [] fun rest => rest.firings later := by
  unfold firings after
  refine rounds earlier positive ?asleep ?once ?again
  case asleep =>
    intro t _ asleep
    rw [loop_asleep asleep]
    rfl
  case once =>
    intro t _ due once
    rw [loop_once due once, loop_once (Nat.le_trans due order) once]
    rfl
  case again =>
    intro t positive due recurring rest
    rw [loop_again positive due recurring, loop_again positive (Nat.le_trans due order) recurring]
    exact congrArg (List.cons t.firing) rest

/-- What is left of a timer is due later. -/
theorem lt_due_of_after (positive : 0 < t.plan.delay) :
    ∀ rest, t.after earlier = some rest → earlier < rest.due := by
  unfold after
  refine rounds earlier positive ?asleep ?once ?again
  case asleep =>
    intro t _ asleep
    rw [loop_asleep asleep]
    rintro rest ⟨⟩
    exact asleep
  case once =>
    intro t _ due once
    rw [loop_once due once]
    nofun
  case again =>
    intro t positive due recurring rest
    rw [loop_again positive due recurring]
    exact rest

/-- What is left of a timer keeps its plan. -/
theorem plan_of_after : ∀ rest, t.after time = some rest → rest.plan = t.plan := by
  unfold after
  fun_induction loop t time with
  | case1 t early =>
    rintro rest ⟨⟩
    rfl
  | case2 t late ended => nofun
  | case3 t late next slept later firings rest looped ih =>
    obtain ⟨-, rfl⟩ := next?_eq_some_iff.1 slept
    rw [looped] at ih
    exact ih
  | case4 t late next slept awake =>
    obtain ⟨-, rfl⟩ := next?_eq_some_iff.1 slept
    rintro rest ⟨⟩
    rfl

/-- Every run of a timer follows its plan. -/
theorem plan_of_mem_firings : ∀ f ∈ t.firings time, f.plan = t.plan := by
  unfold firings
  fun_induction loop t time with
  | case1 t early => nofun
  | case2 t late ended => exact List.forall_mem_singleton.2 rfl
  | case3 t late next slept later firings rest looped ih =>
    obtain ⟨-, rfl⟩ := next?_eq_some_iff.1 slept
    rw [looped] at ih
    exact List.forall_mem_cons.2 ⟨rfl, ih⟩
  | case4 t late next slept awake => exact List.forall_mem_singleton.2 rfl

end RecordSink.Timer
