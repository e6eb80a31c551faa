/-!
Doubles as 64-bit patterns: one bit of sign, eleven of exponent, fifty-two of fraction. A finite
double is a significand times a power of two, both computed exactly, so that rounding, printing and
reading are arithmetic on natural numbers.
-/
namespace RecordSink

/-- A double, given by its bits. -/
structure Double where
  /-- The bits, sign first. -/
  bits : UInt64
  deriving DecidableEq, Repr, Inhabited

namespace Double

/-- The sign bit, as a number. -/
def signBit : Nat :=
  0x8000000000000000

/-- The leading bit of a significand, which is not among the bits of the double. -/
def leadingBit : Nat :=
  0x10000000000000

/-- The bits without the sign. -/
def magnitude (d : Double) : Nat :=
  d.bits.toNat % signBit

/-- Whether the sign bit is set. -/
def isNegative (d : Double) : Bool :=
  signBit ≤ d.bits.toNat

/-- The magnitude of the infinities; larger ones are not numbers. -/
def infinityMagnitude : Nat :=
  2047 * leadingBit

/-- Not a number. -/
def isNaN (d : Double) : Bool :=
  infinityMagnitude < d.magnitude

/-- One of the two infinities. -/
def isInfinite (d : Double) : Bool :=
  d.magnitude == infinityMagnitude

/-- One of the two zeros. -/
def isZero (d : Double) : Bool :=
  d.magnitude == 0

/-- The double with this sign and magnitude. -/
def ofMagnitude (negative : Bool) (magnitude : Nat) : Double :=
  ⟨UInt64.ofNat (magnitude + if negative then signBit else 0)⟩

/-- The positive and the negative zero. -/
def zero (negative : Bool) : Double :=
  ofMagnitude negative 0

/-- The two infinities. -/
def infinity (negative : Bool) : Double :=
  ofMagnitude negative infinityMagnitude

/-- The not-a-number value that stands for all of them. -/
def nan : Double :=
  ⟨0x7ff8000000000000⟩

/-- The double with its sign turned. -/
def neg (d : Double) : Double :=
  ofMagnitude (!d.isNegative) d.magnitude

/-- Equality of the numbers: the two zeros are equal, and not-a-number is equal to nothing. -/
def equals (d e : Double) : Bool :=
  !d.isNaN && !e.isNaN && (d.bits == e.bits || (d.isZero && e.isZero))

/-- The significand of a finite double. -/
def significand (d : Double) : Nat :=
  if d.magnitude < leadingBit then d.magnitude else d.magnitude % leadingBit + leadingBit

/-- The power of two that the significand is multiplied by, plus 1074. -/
def scale (d : Double) : Nat :=
  d.magnitude / leadingBit - 1

/-- The absolute value of a finite double, as a fraction. -/
def fraction (d : Double) : Nat × Nat :=
  if 1074 ≤ d.scale then (d.significand * Nat.pow 2 (d.scale - 1074), 1)
  else (d.significand, Nat.pow 2 (1074 - d.scale))

theorem equals_comm (d e : Double) : d.equals e = e.equals d := by
  simp only [equals, Bool.beq_comm (a := d.bits), Bool.and_comm d.isZero]
  cases d.isNaN <;> cases e.isNaN <;> rfl

/-- Only not-a-number differs from itself. -/
theorem equals_self (d : Double) : d.equals d = !d.isNaN := by
  simp [equals]

end Double
end RecordSink
