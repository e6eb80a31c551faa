import RecordSink.Number.Double
/-!
The shortest decimal that reads back as a given double: of all decimals in the interval of numbers
that round to the double, one with the fewest digits, and of those the nearest. The search goes
through the decimal grids from coarse to fine and looks at the two neighbours of the value on each.
-/
namespace RecordSink.Double

/-- A positive fraction divided by a power of ten. -/
def overPowerOfTen (n d : Nat) : Int → Nat × Nat
  | .ofNat e => (n, d * Nat.pow 10 e)
  | .negSucc e => (n * Nat.pow 10 (e + 1), d)

/-- The exponent of the leading decimal digit of `n / d`: the estimate from the binary logarithm,
corrected by comparing with its two neighbours. -/
def decimalExponent (n d : Nat) : Int :=
  let estimate := ((n.log2 : Int) - d.log2) * 30103 / 100000
  let (a, b) := overPowerOfTen n d estimate
  if a < b then estimate - 1
  else if 10 * b ≤ a then estimate + 1
  else estimate

/-- The numbers that round to a double. All four fractions have the same denominator. -/
structure Interval where
  /-- The lower end. -/
  lower : Nat
  /-- The double itself. -/
  value : Nat
  /-- The upper end. -/
  upper : Nat
  /-- Whether the two ends belong to the interval. -/
  closed : Bool
  /-- The denominator. -/
  denominator : Nat

/-- The interval of a finite double: half a unit to either side, a quarter below a power of two
whose lower neighbours lie closer. The ends round to even, so they belong to an even significand. -/
def interval (d : Double) : Interval :=
  let m := d.significand
  let below := if m = leadingBit ∧ 0 < d.scale then 1 else 2
  { lower := (4 * m - below) * Nat.pow 2 d.scale
    value := 4 * m * Nat.pow 2 d.scale
    upper := (4 * m + 2) * Nat.pow 2 d.scale
    closed := m % 2 == 0
    denominator := Nat.pow 2 1076 }

/-- Which way a value goes that lies halfway between its two neighbours on the grid. -/
inductive Tie where
  /-- To the neighbour with an even last digit. -/
  | even
  /-- To the upper neighbour. -/
  | up
  deriving DecidableEq, Repr

/-- The neighbour of the value on the grid of a power of ten that lies in the interval, the nearer
one if both do. -/
def neighbour? (tie : Tie) (i : Interval) (grid : Int) : Option Nat :=
  let (v, one) := overPowerOfTen i.value i.denominator grid
  let (l, _) := overPowerOfTen i.lower i.denominator grid
  let (u, _) := overPowerOfTen i.upper i.denominator grid
  let down := v / one
  let up := down + 1
  let downFits := if i.closed then l ≤ down * one else l < down * one
  let upFits := if i.closed then up * one ≤ u else up * one < u
  match decide downFits, decide upFits with
  | false, false => none
  | true, false => some down
  | false, true => some up
  | true, true =>
    let twice := 2 * (v - down * one)
    if twice < one then some down
    else if one < twice then some up
    else match tie with
      | .up => some up
      | .even => some (down + down % 2)

/-- The first hit on the grids from `grid` downward. -/
def search (tie : Tie) (i : Interval) (grid : Int) : Nat → Nat × Int
  | 0 => (((overPowerOfTen i.value i.denominator grid).1 /
      (overPowerOfTen i.value i.denominator grid).2), grid)
  | fuel + 1 =>
    match neighbour? tie i grid with
    | some n => (n, grid)
    | none => search tie i (grid - 1) fuel

/-- The shortest decimal of a finite double that is not zero, as an integer and the power of ten
that it is multiplied by. Seventeen digits always suffice. -/
def shortest (tie : Tie) (d : Double) : Nat × Int :=
  let i := d.interval
  search tie i (decimalExponent i.value i.denominator) 17

end RecordSink.Double
