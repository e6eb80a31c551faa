import RecordSink.Number.Decimal
import RecordSink.Text.Digit
/-!
JSON strings. They are written with escapes for quotes, backslashes and control characters only.
They are read in two steps: the pieces between the quotes first, then the text that the pieces stand
for, which does not exist if a half of a surrogate pair stands alone. What is skipped takes the first
step only.
-/
namespace RecordSink.Json

/-- A character inside quotes. -/
def escape (c : Char) : List Char :=
  match c with
  | '"' => ['\\', '"']
  | '\\' => ['\\', '\\']
  | '\x08' => ['\\', 'b']
  | '\t' => ['\\', 't']
  | '\n' => ['\\', 'n']
  | '\x0c' => ['\\', 'f']
  | '\r' => ['\\', 'r']
  | c =>
    if c.toNat < 0x20 then
      ['\\', 'u', '0', '0', Text.hexDigit (c.toNat / 16), Text.hexDigit (c.toNat % 16)]
    else [c]

/-- A string in quotes. -/
def quote (s : String) : List Char :=
  '"' :: s.toList.flatMap escape ++ ['"']

/-- A piece of a string as it is written. -/
inductive Piece where
  /-- A character, written as it is or by a short escape. -/
  | char (c : Char)
  /-- A code unit of sixteen bits, written by its number. -/
  | unit (n : Nat)
  deriving DecidableEq, Repr

/-- The character that a short escape stands for. -/
def shortEscape? : Char → Option Char
  | '"' => some '"'
  | '\\' => some '\\'
  | '/' => some '/'
  | 'b' => some '\x08'
  | 'f' => some '\x0c'
  | 'n' => some '\n'
  | 'r' => some '\r'
  | 't' => some '\t'
  | _ => none

/-- The value of four hexadecimal digits. -/
def hexValue4? (a b c d : Char) : Option Nat :=
  if [a, b, c, d].all (Text.isDigitTo 16) then some (Text.numberTo 16 [a, b, c, d]) else none

/-- The pieces up to the closing quote, and what follows it. Control characters must be escaped. -/
def readPieces : List Char → Option (List Piece × List Char)
  | [] => none
  | '"' :: rest => some ([], rest)
  | '\\' :: 'u' :: a :: b :: c :: d :: rest => do
    let n ← hexValue4? a b c d
    let (pieces, rest) ← readPieces rest
    return (.unit n :: pieces, rest)
  | '\\' :: e :: rest => do
    let c ← shortEscape? e
    let (pieces, rest) ← readPieces rest
    return (.char c :: pieces, rest)
  | c :: rest =>
    if c = '\\' ∨ c.toNat < 0x20 then none
    else do
      let (pieces, rest) ← readPieces rest
      return (.char c :: pieces, rest)

/-- The first half of a surrogate pair. -/
def isHighSurrogate (n : Nat) : Bool :=
  0xD800 ≤ n && n < 0xDC00

/-- The second half of a surrogate pair. -/
def isLowSurrogate (n : Nat) : Bool :=
  0xDC00 ≤ n && n < 0xE000

/-- The characters that pieces stand for; the halves of a surrogate pair must stand together. -/
def decodePieces : List Piece → Option (List Char)
  | [] => some []
  | .char c :: rest => do return c :: (← decodePieces rest)
  | .unit n :: rest =>
    if isHighSurrogate n then
      match rest with
      | .unit m :: rest =>
        if isLowSurrogate m then do
          return Char.ofNat (0x10000 + (n - 0xD800) * 0x400 + (m - 0xDC00)) :: (← decodePieces rest)
        else none
      | _ => none
    else if isLowSurrogate n then none
    else do return Char.ofNat n :: (← decodePieces rest)

/-- The text that pieces stand for. -/
def decodeText (pieces : List Piece) : Option String :=
  (decodePieces pieces).map String.ofList

end RecordSink.Json
