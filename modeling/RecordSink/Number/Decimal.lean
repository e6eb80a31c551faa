import RecordSink.Number.Shortest
/-!
Decimal text. Natural numbers are written in base ten; doubles by their shortest digits, in
positional notation for a range of exponents and in scientific notation outside of it. Each format
is a record of such decisions.
-/
namespace RecordSink

/-- The character of a digit below ten. -/
def digitChar (d : Nat) : Char :=
  Char.ofNat ('0'.toNat + d)

/-- The digits of a number in base ten, at least one. -/
def decimalDigits (n : Nat) : List Char :=
  Nat.toDigits 10 n

/-- The text of a natural number. -/
def natText (n : Nat) : String :=
  String.ofList (decimalDigits n)

/-- The text of an integer. -/
def intText (n : Int) : String :=
  if n < 0 then "-" ++ natText n.natAbs else natText n.natAbs

/-- How finite doubles are written. -/
structure DoubleFormat where
  /-- The least exponent of the leading digit that is written in positional notation. -/
  least : Int
  /-- The greatest exponent of the leading digit that is written in positional notation. -/
  most : Int
  /-- What stands before a positive exponent. -/
  plus : String
  /-- What happens halfway between two shortest decimals. -/
  tie : Double.Tie

namespace DoubleFormat

/-- Doubles in JSON text: positional from 0.00001 up to below 10^16, then `1e+16`. -/
def json : DoubleFormat :=
  ⟨-5, 15, "+", .even⟩

/-- Doubles in diagnostics: positional from 0.0001 up to below 10^16, then `1e16`. -/
def diagnostic : DoubleFormat :=
  ⟨-4, 15, "", .up⟩

/-- Digits in positional notation, the leading one at the exponent `e`; always with a point and a
digit after it. -/
def positional (digits : List Char) : Int → List Char
  | .ofNat e =>
    let whole := digits.take (e + 1)
    let rest := digits.drop (e + 1)
    whole ++ List.replicate (e + 1 - whole.length) '0' ++ '.' :: (if rest.isEmpty then ['0'] else rest)
  | .negSucc e => '0' :: '.' :: List.replicate e '0' ++ digits

/-- Digits in scientific notation. -/
def scientific (f : DoubleFormat) (digits : List Char) (e : Int) : List Char :=
  let mantissa := match digits with
    | [] => []
    | [d] => [d]
    | d :: rest => d :: '.' :: rest
  mantissa ++ 'e' :: ((if 0 ≤ e then f.plus else "").toList ++ (intText e).toList)

/-- The digits and the exponent of the leading one, without zeros at the end. -/
def leading (n : Nat) (grid : Int) : List Char × Int :=
  let digits := decimalDigits n
  ((digits.reverse.dropWhile (· == '0')).reverse, grid + digits.length - 1)

/-- The absolute value of a finite double. -/
def absolute (f : DoubleFormat) (d : Double) : List Char :=
  if d.isZero then ['0', '.', '0']
  else
    let (n, grid) := d.shortest f.tie
    let (digits, e) := leading n grid
    if f.least ≤ e ∧ e ≤ f.most then positional digits e else f.scientific digits e

/-- A finite double. -/
def finite (f : DoubleFormat) (d : Double) : List Char :=
  if d.isNegative then '-' :: f.absolute d else f.absolute d

end DoubleFormat
end RecordSink
