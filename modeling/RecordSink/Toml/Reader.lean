/-!
Readers. A reader takes something from the beginning of a text, or finds that it is not there and
takes nothing. Readers are combined one after the other, in place of each other, and repeatedly.
-/
namespace RecordSink.Toml

/-- A reader of something that the beginning of a text stands for. -/
abbrev Reader := StateT (List Char) Option

namespace Reader

/-- A character of a class. -/
def char (p : Char → Bool) : Reader Char := fun cs =>
  match cs with
  | c :: rest => if p c then some (c, rest) else none
  | [] => none

/-- Exactly these characters. -/
def exactly : List Char → Reader Unit
  | [] => return ()
  | c :: rest => do
    let _ ← char (· == c)
    exactly rest

/-- Exactly this character. -/
def mark (c : Char) : Reader Unit :=
  exactly [c]

/-- As many characters of a class as there are. -/
def run (p : Char → Bool) : Reader (List Char) := fun cs =>
  some (cs.takeWhile p, cs.dropWhile p)

/-- The end of the text. -/
def atEnd : Reader Unit := fun cs =>
  if cs.isEmpty then some ((), cs) else none

/-- The value, if there is one. -/
def ofOption (value : Option α) : Reader α := fun cs =>
  value.map (·, cs)

/-- What the reader finds, if it is there. -/
def option (item : Reader α) : Reader (Option α) := fun cs =>
  match item cs with
  | some (a, rest) => some (some a, rest)
  | none => some (none, cs)

/-- What the reader finds again and again, at most `fuel` times. -/
def repeated (item : Reader α) : (fuel : Nat) → Reader (List α)
  | 0 => return []
  | fuel + 1 => do
    match ← option item with
    | none => return []
    | some a => return a :: (← repeated item fuel)

/-- What the reader finds again and again. It takes at least one character each time. -/
def many (item : Reader α) : Reader (List α) := do
  repeated item (← get).length

/-- What the reader finds, once at least, with separators between each two. -/
def separated (item : Reader α) (separator : Char) : Reader (List α) := do
  let first ← item
  let rest ← many do
    mark separator
    item
  return first :: rest

/-- What the reader finds exactly `n` times. -/
def times (item : Reader α) : (n : Nat) → Reader (List α)
  | 0 => return []
  | n + 1 => do
    let a ← item
    return a :: (← times item n)

end Reader

/-- A character that can stand in a comment: all but the control characters, except the tab. -/
def isPlain (c : Char) : Bool :=
  c == '\t' || (0x20 ≤ c.toNat && c.toNat != 0x7F)

/-- A blank inside a line. -/
def isBlank (c : Char) : Bool :=
  c == ' ' || c == '\t'

namespace Reader

/-- The blanks that stand here, if any. -/
def blanks : Reader Unit := do
  let _ ← run isBlank

/-- The end of a line. -/
def newline : Reader Unit :=
  mark '\n' <|> exactly ['\r', '\n']

/-- A comment, up to the end of its line. -/
def comment : Reader Unit := do
  mark '#'
  let _ ← run isPlain

/-- Blanks, ends of lines and comments. -/
def skipLines : Reader Unit := do
  let _ ← many ((do let _ ← char isBlank) <|> newline <|> comment)

/-- What may stand between the last thing on a line and the end of the line or text. -/
def restOfLine : Reader Unit := do
  blanks
  let _ ← option comment
  newline <|> atEnd

end Reader
end RecordSink.Toml
