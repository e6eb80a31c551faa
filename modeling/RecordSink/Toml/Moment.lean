import RecordSink.Number.Decimal
/-!
Moments: dates of the Gregorian calendar, times of a day, and both together, with or without an offset
from universal time. They are written with the fewest digits of the second, and with a `T` between
date and time.
-/
namespace RecordSink.Toml

/-- A date. -/
structure Date where
  /-- The year, from 0 to 9999. -/
  year : Nat
  /-- The month, from 1. -/
  month : Nat
  /-- The day of the month, from 1. -/
  day : Nat
  deriving DecidableEq, Repr

/-- A time of a day. -/
structure Time where
  /-- The hour. -/
  hour : Nat
  /-- The minute. -/
  minute : Nat
  /-- The second, which is 60 where one is inserted. -/
  second : Nat
  /-- The part of the second that has passed, in nanoseconds. -/
  nanosecond : Nat
  deriving DecidableEq, Repr

/-- The offset of a time from universal time. Universal time itself and an offset of nothing are
different offsets. -/
inductive Offset where
  /-- Universal time. -/
  | universal
  /-- So many minutes ahead. -/
  | ahead (minutes : Int)
  deriving DecidableEq, Repr

/-- A date, a time, or both. -/
inductive Moment where
  | date (d : Date)
  | time (t : Time)
  | both (d : Date) (t : Time) (offset : Option Offset)
  deriving DecidableEq, Repr

/-- Whether the year has a 29th of February. -/
def isLeap (year : Nat) : Bool :=
  year % 4 == 0 && (year % 100 != 0 || year % 400 == 0)

/-- The number of days of a month. -/
def daysOf (year month : Nat) : Nat :=
  if month = 2 then (if isLeap year then 29 else 28)
  else if month ∈ [4, 6, 9, 11] then 30
  else 31

/-- Whether the calendar has this date. -/
def Date.isValid (d : Date) : Bool :=
  1 ≤ d.month && d.month ≤ 12 && 1 ≤ d.day && d.day ≤ daysOf d.year d.month

/-- A number with zeros in front of it, up to this width. -/
def padded (width n : Nat) : List Char :=
  let digits := decimalDigits n
  List.replicate (width - digits.length) '0' ++ digits

/-- A date as text. -/
def Date.chars (d : Date) : List Char :=
  padded 4 d.year ++ '-' :: padded 2 d.month ++ '-' :: padded 2 d.day

/-- The fraction of a second as text, without zeros at the end. -/
def fractionChars (nanosecond : Nat) : List Char :=
  if nanosecond = 0 then []
  else '.' :: ((padded 9 nanosecond).reverse.dropWhile (· == '0')).reverse

/-- A time as text. -/
def Time.chars (t : Time) : List Char :=
  padded 2 t.hour ++ ':' :: padded 2 t.minute ++ ':' :: padded 2 t.second ++
    fractionChars t.nanosecond

/-- An offset as text. -/
def Offset.chars : Offset → List Char
  | universal => ['Z']
  | ahead minutes =>
    let n := minutes.natAbs
    (if minutes < 0 then '-' else '+') :: padded 2 (n / 60) ++ ':' :: padded 2 (n % 60)

/-- A moment as text. -/
def Moment.chars : Moment → List Char
  | date d => d.chars
  | time t => t.chars
  | both d t none => d.chars ++ 'T' :: t.chars
  | both d t (some offset) => d.chars ++ 'T' :: t.chars ++ offset.chars

/-- A moment as text. -/
def Moment.text (m : Moment) : String :=
  String.ofList m.chars

end RecordSink.Toml
