/-!
Lines of bytes. A line ends before a line feed, and before a carriage return that precedes it; what
follows the last line feed is a line of its own unless it is empty. The lines of a text end where one
is not valid UTF-8.
-/
namespace RecordSink.Text

/-- A line as it was read, last byte first, without a carriage return at its end. -/
def finished (reversed : List UInt8) : List UInt8 :=
  match reversed with
  | 0x0D :: before => before.reverse
  | all => all.reverse

/-- The lines of bytes that follow those of the current line, which come last byte first. -/
def byteLines (reversed : List UInt8) : List UInt8 → List (List UInt8)
  | [] => if reversed.isEmpty then [] else [reversed.reverse]
  | byte :: rest =>
    if byte = 0x0A then finished reversed :: byteLines [] rest
    else byteLines (byte :: reversed) rest

/-- The lines up to the first one that is no text. -/
def decoded : List (List UInt8) → List String
  | [] => []
  | line :: rest =>
    match String.fromUTF8? ⟨line.toArray⟩ with
    | some text => text :: decoded rest
    | none => []

/-- The lines that bytes stand for. -/
def lines (bytes : List UInt8) : List String :=
  decoded (byteLines [] bytes)

end RecordSink.Text
