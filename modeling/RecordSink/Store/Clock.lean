/-!
Timestamps. The wall clock is a stream of readings that may stand still or go backwards; the
timestamps made of it increase strictly, until the largest one is reached.
-/
namespace RecordSink

/-- A source of timestamps. -/
structure Clock where
  /-- The readings of the wall clock, in milliseconds. -/
  wall : Nat → Int64
  /-- How many readings were taken. -/
  taken : Nat
  /-- The last timestamp. -/
  last : Int64

namespace Clock

/-- A clock that has made no timestamp yet. -/
def start (wall : Nat → Int64) : Clock :=
  ⟨wall, 0, 0⟩

/-- The number after this one, or the same if there is none. -/
def successor (n : Int64) : Int64 :=
  if n = Int64.maxValue then n else n + 1

/-- The next timestamp: the reading, or the number after the last timestamp if that is larger. -/
def next (c : Clock) : Int64 :=
  max (c.wall c.taken) (successor c.last)

/-- The clock after its next timestamp. -/
def advance (c : Clock) : Clock :=
  { c with taken := c.taken + 1, last := c.next }

/-- The next timestamps, and the clock after them. -/
def take (c : Clock) : Nat → List Int64 × Clock
  | 0 => ([], c)
  | n + 1 =>
    let (rest, last) := c.advance.take n
    (c.next :: rest, last)

theorem lt_successor {n : Int64} (h : n ≠ Int64.maxValue) : n < successor n := by
  have bound := n.toInt_lt
  have least := n.le_toInt
  have below : n.toInt ≠ Int64.maxValue.toInt := fun e => h (Int64.toInt_inj.1 e)
  rw [show Int64.maxValue.toInt = 2 ^ 63 - 1 from rfl] at below
  rw [successor, if_neg h, Int64.lt_iff_toInt_lt, Int64.toInt_add]
  rw [show (1 : Int64).toInt = 1 from rfl, Int.bmod_eq_of_le] <;> omega

/-- A timestamp is larger than the one before it, as long as there is a larger one. -/
theorem last_lt_next {c : Clock} (h : c.last ≠ Int64.maxValue) : c.last < c.next := by
  have step := lt_successor h
  unfold next
  rw [Int64.lt_iff_toInt_lt] at step ⊢
  rw [show max (c.wall c.taken) (successor c.last) =
    if c.wall c.taken ≤ successor c.last then successor c.last else c.wall c.taken from rfl]
  split
  · exact step
  · rename_i far
    rw [Int64.le_iff_toInt_le] at far
    omega

end Clock
end RecordSink
