import RecordSink.Number.Double
/-!
Rounding of fractions to doubles: to the nearest, halves to the even significand, too large ones to
infinity. Multiplication and division of doubles are the exact operation followed by one rounding.
-/
namespace RecordSink.Double

/-- `n / d` rounded to a natural number, halves to the even one. -/
def divHalfEven (n d : Nat) : Nat :=
  let q := n / d
  let r := n % d
  if 2 * r < d then q
  else if d < 2 * r then q + 1
  else q + q % 2

/-- The fraction `n / d` in units of two to the power `e - 1074`, as a fraction. -/
def inUnits (n d e : Nat) : Nat × Nat :=
  if 1074 ≤ e then (n, d * Nat.pow 2 (e - 1074)) else (n * Nat.pow 2 (1074 - e), d)

/-- The exponent `e`, plus 1074, at which `n / d` has 53 bits before the point, or 0 if it is
smaller than that. -/
def unitExponent (n d : Nat) : Nat :=
  let e := n.log2 + 1074 - d.log2 - 53
  let (a, b) := inUnits n d e
  if a / b < 2 * leadingBit then e else e + 1

/-- The magnitude of the double nearest to `n / d`. -/
def roundMagnitude (n d : Nat) : Nat :=
  if n = 0 then 0
  else
    let e := unitExponent n d
    let (a, b) := inUnits n d e
    min (divHalfEven a b + e * leadingBit) infinityMagnitude

/-- The double nearest to `n / d`, with this sign. -/
def ofFraction (negative : Bool) (n d : Nat) : Double :=
  ofMagnitude negative (roundMagnitude n d)

/-- The double nearest to a natural number. -/
def ofNat (n : Nat) : Double :=
  ofFraction false n 1

/-- The double nearest to `n` times a power of ten, with this sign. Powers that are out of range
whatever the digits are not computed. -/
def ofDecimal (negative : Bool) (n : Nat) (exponent : Int) : Double :=
  if n = 0 then zero negative
  else
    match exponent with
    | .ofNat e =>
      if 310 < e then infinity negative else ofFraction negative (n * Nat.pow 10 e) 1
    | .negSucc e =>
      if n.log2 / 3 + 331 < e then zero negative else ofFraction negative n (Nat.pow 10 (e + 1))

/-- The product of two finite doubles that are not negative. -/
def mul (x y : Double) : Double :=
  ofFraction false (x.fraction.1 * y.fraction.1) (x.fraction.2 * y.fraction.2)

/-- The quotient of two finite doubles that are not negative, the second not zero. -/
def div (x y : Double) : Double :=
  ofFraction false (x.fraction.1 * y.fraction.2) (x.fraction.2 * y.fraction.1)

end RecordSink.Double
