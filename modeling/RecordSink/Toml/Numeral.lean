import RecordSink.Number.Rounding
import RecordSink.Text.Digit
import RecordSink.Toml.Reader
/-!
Numerals of TOML. Integers have 64 bits and are written to base ten, or without sign to base sixteen,
eight or two; floats are the nearest doubles. Single underscores may stand between digits, and a zero
is the first of several digits in no integer part.
-/
namespace RecordSink.Toml.Reader

/-- One or more digits to a base, perhaps with single underscores between them. -/
def digits (base : Nat) : Reader (List Char) := do
  let digit := char (Text.isDigitTo base)
  let first ← digit
  let rest ← many do
    let _ ← option (mark '_')
    digit
  return first :: rest

/-- A sign, perhaps: whether it is a minus. -/
def sign : Reader Bool := do
  return (← option (char fun c => c == '+' || c == '-')) == some '-'

/-- The digits of an integer part. -/
def wholeDigits : Reader (List Char) := do
  let ds ← digits 10
  if ds.head? = some '0' ∧ ds.length ≠ 1 then failure else return ds

/-- The integer, if 64 bits can hold it. -/
def int64? (n : Int) : Option Int :=
  if -0x8000000000000000 ≤ n ∧ n < 0x8000000000000000 then some n else none

/-- An integer to base ten. -/
def decimalInt : Reader Int := do
  let negative ← sign
  let n : Int := Text.numberTo 10 (← wholeDigits)
  ofOption (int64? (if negative then -n else n))

/-- An integer to the base that a mark after a zero stands for. -/
def basedInt (letter : Char) (base : Nat) : Reader Int := do
  exactly ['0', letter]
  ofOption (int64? (Text.numberTo base (← digits base)))

/-- An integer. -/
def int : Reader Int :=
  basedInt 'x' 16 <|> basedInt 'o' 8 <|> basedInt 'b' 2 <|> decimalInt

/-- The exponent of a float. -/
def exponent : Reader Int := do
  let _ ← char fun c => c == 'e' || c == 'E'
  let negative ← sign
  let n : Int := Text.numberTo 10 (← digits 10)
  return if negative then -n else n

/-- The digits after the point of a float. -/
def fraction : Reader (List Char) := do
  mark '.'
  digits 10

/-- A float that is written with digits. One that is too large is refused, but one that is too small
becomes the negative infinity. -/
def decimalFloat : Reader Double := do
  let negative ← sign
  let whole ← wholeDigits
  let places ← option fraction
  let power ← option exponent
  if places.isNone ∧ power.isNone then failure
  let places := places.getD []
  let d := Double.ofDecimal negative (Text.numberTo 10 (whole ++ places))
    (power.getD 0 - places.length)
  if d = Double.infinity false then failure else return d

/-- A float that is written as a word. -/
def wordFloat : Reader Double := do
  let negative ← sign
  let d ← (do exactly ['i', 'n', 'f']; return Double.infinity false) <|>
    (do exactly ['n', 'a', 'n']; return Double.nan)
  return if negative then d.neg else d

/-- A float. -/
def float : Reader Double :=
  decimalFloat <|> wordFloat

end RecordSink.Toml.Reader
