import RecordSink.Number.Rounding
/-!
JSON numbers. A numeral is an integer if it has neither fraction nor exponent and fits into 64 bits,
and a double otherwise. A double is read in two steps: as many leading digits as fit into 64 bits make
a significand, which is rounded once and then multiplied or divided once by a rounded power of ten.
The result can differ from the nearest double in its last bit.
-/
namespace RecordSink.Json

/-- A numeral as it is written. -/
structure Numeral where
  /-- Whether it begins with a minus sign. -/
  negative : Bool
  /-- The digits before the point. -/
  whole : List Nat
  /-- The digits after the point, if there is one. -/
  fraction : Option (List Nat)
  /-- The exponent, if there is one: whether it is negative, and its digits. -/
  exponent : Option (Bool × List Nat)
  deriving DecidableEq, Repr

/-- A number. -/
inductive Number where
  | int (n : Int)
  | double (d : Double)
  deriving DecidableEq, Repr

/-- The value of a digit. -/
def digitValue (c : Char) : Nat :=
  c.toNat - '0'.toNat

/-- The digits at the beginning, and what follows them. -/
def readDigits (cs : List Char) : List Nat × List Char :=
  ((cs.takeWhile Char.isDigit).map digitValue, cs.dropWhile Char.isDigit)

/-- The fraction of a numeral, if a point comes next. -/
def readFraction : List Char → Option (Option (List Nat) × List Char)
  | '.' :: rest =>
    match readDigits rest with
    | ([], _) => none
    | (digits, rest) => some (some digits, rest)
  | rest => some (none, rest)

/-- The digits of an exponent. -/
def readExponentDigits (negative : Bool) (cs : List Char) :
    Option (Option (Bool × List Nat) × List Char) :=
  match readDigits cs with
  | ([], _) => none
  | (digits, rest) => some (some (negative, digits), rest)

/-- The exponent of a numeral, if the mark of one comes next. -/
def readExponent : List Char → Option (Option (Bool × List Nat) × List Char)
  | c :: rest =>
    if c = 'e' ∨ c = 'E' then
      match rest with
      | '+' :: rest => readExponentDigits false rest
      | '-' :: rest => readExponentDigits true rest
      | rest => readExponentDigits false rest
    else some (none, c :: rest)
  | [] => some (none, [])

/-- A numeral without its sign. A zero at the beginning is the only digit before the point. -/
def readUnsigned (negative : Bool) (cs : List Char) : Option (Numeral × List Char) := do
  let (whole, rest) := readDigits cs
  if whole = [] then none
  if whole.head? = some 0 ∧ whole.length ≠ 1 then none
  let (fraction, rest) ← readFraction rest
  let (exponent, rest) ← readExponent rest
  return (⟨negative, whole, fraction, exponent⟩, rest)

/-- A numeral, and what follows it. -/
def readNumeral : List Char → Option (Numeral × List Char)
  | '-' :: rest => readUnsigned true rest
  | rest => readUnsigned false rest

/-- The largest significand. -/
def maxSignificand : Nat :=
  0xffffffffffffffff

/-- The significand with as many of the digits as fit, and the number of digits that do not. -/
def accumulate (significand : Nat) : List Nat → Nat × Nat
  | [] => (significand, 0)
  | d :: rest =>
    if significand * 10 + d ≤ maxSignificand then accumulate (significand * 10 + d) rest
    else (significand, rest.length + 1)

/-- The largest exponent that is taken at its value. -/
def maxExponent : Nat :=
  0x7fffffff

/-- The number that digits make. -/
def digitsValue (digits : List Nat) : Nat :=
  digits.foldl (fun n d => n * 10 + d) 0

/-- The double nearest to a power of ten. -/
def powerOfTen (e : Nat) : Double :=
  Double.ofNat (Nat.pow 10 e)

/-- A double times a power of ten below one, divided in steps of at most 308 digits. -/
def divideByPower (d : Double) : (fuel : Nat) → (exponent : Nat) → Double
  | 0, _ => d
  | fuel + 1, exponent =>
    if exponent ≤ 308 then d.div (powerOfTen exponent)
    else if d.isZero then d
    else divideByPower (d.div (powerOfTen 308)) fuel (exponent - 308)

/-- A significand times a power of ten, if that is in the range of doubles. Three divisions bring every
significand to zero. -/
def scaled? (significand : Nat) (exponent : Int) : Option Double :=
  let d := Double.ofNat significand
  match exponent with
  | .ofNat e =>
    if e ≤ 308 then
      let product := d.mul (powerOfTen e)
      if product.isInfinite then none else some product
    else if d.isZero then some d
    else none
  | .negSucc e => some (divideByPower d 4 (e + 1))

namespace Numeral

/-- The significand of a numeral and the exponent that goes with it, before the written exponent is
added. -/
def significand (n : Numeral) : Nat × Int :=
  let (whole, dropped) := accumulate 0 n.whole
  let digits := n.fraction.getD []
  let (all, ignored) := accumulate whole digits
  (all, (dropped : Int) - (digits.length - ignored : Nat))

/-- The absolute value of a numeral as a double. An exponent that is too large to be taken at its
value is out of range, unless it makes the number vanish. -/
def magnitude? (n : Numeral) : Option Double :=
  let (significand, scale) := n.significand
  match n.exponent with
  | none => scaled? significand scale
  | some (negative, digits) =>
    let e := digitsValue digits
    if e ≤ maxExponent then scaled? significand (if negative then scale - e else scale + e)
    else if negative ∨ significand = 0 then some (Double.zero false)
    else none

/-- The double that a numeral stands for. -/
def double? (n : Numeral) : Option Double :=
  n.magnitude?.map fun d => if n.negative then d.neg else d

/-- The number that a numeral stands for. A negative zero is a double. -/
def number? (n : Numeral) : Option Number :=
  let value := digitsValue n.whole
  if n.fraction.isSome ∨ n.exponent.isSome ∨ maxSignificand < value then n.double?.map .double
  else if !n.negative then some (.int value)
  else if value = 0 then some (.double (Double.zero true))
  else if value ≤ 0x8000000000000000 then some (.int (-value))
  else some (.double (Double.ofNat value).neg)

end Numeral
end RecordSink.Json
