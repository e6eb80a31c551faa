import RecordSink.Text.Digit
import RecordSink.Toml.Reader
/-!
Quoted text: between double quotes with escapes, between single quotes without, and each on one line
or, between three quotes, on several. On several lines, an end of a line is a line feed, the one that
comes first is left out, and up to two quotes may stand before the closing ones.
-/
namespace RecordSink.Toml.Reader

/-- The character with a number, if it has one. -/
def charOf? (n : Nat) : Option Char :=
  if n < 0xD800 ∨ (0xE000 ≤ n ∧ n < 0x110000) then some (Char.ofNat n) else none

/-- A character by its number in hexadecimal digits. -/
def numberedChar (width : Nat) : Reader Char := do
  let digits ← times (char (Text.isDigitTo 16)) width
  ofOption (charOf? (Text.numberTo 16 digits))

/-- What follows the backslash of an escape. -/
def escaped : Reader Char := do
  match ← char fun _ => true with
  | 'b' => return '\x08'
  | 't' => return '\t'
  | 'n' => return '\n'
  | 'f' => return '\x0c'
  | 'r' => return '\r'
  | '"' => return '"'
  | '\\' => return '\\'
  | 'u' => numberedChar 4
  | 'U' => numberedChar 8
  | _ => failure

/-- A character between double quotes. -/
def basicChar : Reader Char :=
  char (fun c => isPlain c && c != '"' && c != '\\') <|> (do mark '\\'; escaped)

/-- A character between single quotes. -/
def literalChar : Reader Char :=
  char fun c => isPlain c && c != '\''

/-- Text between two quotes on one line. -/
def onOneLine (quote : Char) (item : Reader Char) : Reader (List Char) := do
  mark quote
  let text ← many item
  mark quote
  return text

/-- A backslash at the end of a line: everything up to the next character that is not blank is left
out. -/
def continuation : Reader Unit := do
  mark '\\'
  blanks
  newline
  let _ ← many ((do let _ ← char isBlank) <|> newline)

/-- A piece of text on several lines: a character, an end of a line, or nothing where a line is
continued. -/
def piece (item : Reader Char) : Reader (List Char) :=
  (do return [← item]) <|> (do newline; return ['\n']) <|> (do continuation; return [])

/-- One or two quotes that do not close the text. -/
def innerQuotes (quote : Char) : Reader (List Char) := do
  let quotes ← run (· == quote)
  if quotes.length = 1 ∨ quotes.length = 2 then return quotes else failure

/-- The quotes that close the text: three of them, and up to two before them that belong to the
text. -/
def closingQuotes (quote : Char) : Reader (List Char) := do
  exactly [quote, quote, quote]
  let fourth ← option (mark quote)
  let fifth ← option (mark quote)
  return List.replicate (fourth.toList.length + fifth.toList.length) quote

/-- Text between three quotes on either side. -/
def onLines (quote : Char) (item : Reader (List Char)) : Reader (List Char) := do
  exactly [quote, quote, quote]
  let _ ← option newline
  let pieces ← many (item <|> innerQuotes quote)
  let last ← closingQuotes quote
  return pieces.flatten ++ last

/-- A character between three single quotes, or an end of a line. -/
def literalPiece : Reader (List Char) :=
  (do return [← literalChar]) <|> (do newline; return ['\n'])

/-- Quoted text on one line. -/
def quotedLine : Reader String := do
  return String.ofList (← onOneLine '"' basicChar <|> onOneLine '\'' literalChar)

/-- Quoted text. -/
def quoted : Reader String := do
  let text ← onLines '"' (piece basicChar) <|> onOneLine '"' basicChar <|>
    onLines '\'' literalPiece <|> onOneLine '\'' literalChar
  return String.ofList text

end RecordSink.Toml.Reader
