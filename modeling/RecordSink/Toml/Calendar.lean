import RecordSink.Text.Digit
import RecordSink.Toml.Moment
import RecordSink.Toml.Reader
/-!
Reading moments. All numbers have a fixed count of digits and must be in range; of the fraction of a
second, nine digits count and the others are left out. Moments stand in documents, and they can be
spelled in strings, where the numbers may go a little further.
-/
namespace RecordSink.Toml

/-- How far the numbers of a moment go. -/
structure Limits where
  /-- The last hour, of a day and of an offset. -/
  hour : Nat
  /-- The last minute of an offset. -/
  offsetMinute : Nat
  deriving DecidableEq, Repr

namespace Limits

/-- The limits in a document. -/
def document : Limits :=
  ⟨23, 59⟩

/-- The limits in a string. -/
def string : Limits :=
  ⟨24, 99⟩

end Limits

namespace Reader

/-- A number of exactly this many digits, within bounds. -/
def fixed (width low high : Nat) : Reader Nat := do
  let n := Text.numberTo 10 (← times (char Char.isDigit) width)
  if low ≤ n ∧ n ≤ high then return n else failure

/-- A date. -/
def date : Reader Date := do
  let year ← fixed 4 0 9999
  mark '-'
  let month ← fixed 2 1 12
  mark '-'
  let day ← fixed 2 1 31
  let d : Date := ⟨year, month, day⟩
  if d.isValid then return d else failure

/-- The fraction of a second, in nanoseconds. -/
def nanoseconds : Reader Nat := do
  mark '.'
  let first ← char Char.isDigit
  let digits := (first :: (← run Char.isDigit)).take 9
  return Text.numberTo 10 digits * Nat.pow 10 (9 - digits.length)

/-- A time of a day. -/
def time (limits : Limits) : Reader Time := do
  let hour ← fixed 2 0 limits.hour
  mark ':'
  let minute ← fixed 2 0 59
  mark ':'
  let second ← fixed 2 0 60
  let rest ← option nanoseconds
  return ⟨hour, minute, second, rest.getD 0⟩

/-- An offset, of one day at most. -/
def offset (limits : Limits) : Reader Offset :=
  (do let _ ← char (fun c => c == 'Z' || c == 'z'); return .universal) <|> do
    let direction ← char fun c => c == '+' || c == '-'
    let hours ← fixed 2 0 limits.hour
    mark ':'
    let minutes ← fixed 2 0 limits.offsetMinute
    let n := hours * 60 + minutes
    if n ≤ 24 * 60 then return .ahead (if direction = '-' then -n else n) else failure

/-- A time that follows a date, after a letter or a single space. -/
def laterTime (limits : Limits) : Reader (Time × Option Offset) := do
  let _ ← char fun c => c == 'T' || c == 't' || c == ' '
  let t ← time limits
  return (t, ← option (offset limits))

/-- A moment. -/
def moment (limits : Limits) : Reader Moment :=
  (do
    let d ← date
    match ← option (laterTime limits) with
    | some (t, o) => return .both d t o
    | none => return .date d) <|>
  (do return .time (← time limits))

end Reader

/-- The moment that a whole string spells. -/
def Moment.ofText? (s : String) : Option Moment := do
  let (m, rest) ← StateT.run (Reader.moment .string) s.toList
  if rest.isEmpty then return m else none

end RecordSink.Toml
