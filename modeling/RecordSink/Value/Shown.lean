import RecordSink.Number.Decimal
import RecordSink.Text.Quoted
import RecordSink.Value
/-!
Values in diagnostics: the kind, and the value in parentheses.
-/
namespace RecordSink.Value

/-- A double in a diagnostic. -/
def shownDouble (d : Double) : String :=
  if d.isNaN then "NaN"
  else if d.isInfinite then (if d.isNegative then "-inf" else "inf")
  else String.ofList (DoubleFormat.diagnostic.finite d)

/-- A value in a diagnostic. -/
def shown : Value → String
  | boolean b => "Boolean(" ++ (if b then "true" else "false") ++ ")"
  | byte n => "Byte(" ++ intText n.toInt ++ ")"
  | short n => "Short(" ++ intText n.toInt ++ ")"
  | integer n => "Integer(" ++ intText n.toInt ++ ")"
  | long n => "Long(" ++ intText n.toInt ++ ")"
  | double d => "Double(" ++ shownDouble d ++ ")"
  | string s => "String(" ++ Text.quoted s ++ ")"
  | byteArray bytes =>
    "ByteArray([" ++ String.intercalate ", " (bytes.map fun b => natText b.toNat) ++ "])"

end RecordSink.Value
