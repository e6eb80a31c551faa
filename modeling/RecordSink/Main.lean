import RecordSink.Command
import RecordSink.Service
import Std.Time.DateTime.Timestamp
/-!
The program: it runs the service on the lines of its standard input, and writes what is forwarded to
its standard output.
-/
open RecordSink

/-- The wall clock, in milliseconds since 1970. -/
def readWallClock : IO Int64 := do
  let now ← Std.Time.Timestamp.now
  return Int64.ofInt now.toMillisecondsSinceUnixEpoch.val

/-- The text of a file, if it can be read. -/
def readText? (path : String) : IO (Option String) := do
  try
    return some (← IO.FS.readFile path)
  catch _ =>
    return none

/-- The next line of the input, if there is one and it is text. -/
def nextLine? (input : IO.FS.Stream) : IO (Option String) := do
  try
    let line ← input.getLine
    return (Text.lines line.toUTF8.toList).head?
  catch _ =>
    return none

/-- Receives lines until the input ends, and forwards after each of them. -/
partial def serveLines (input output : IO.FS.Stream) (s : Service (List String)) : IO Unit := do
  match ← nextLine? input with
  | none => return
  | some line =>
    let wall ← readWallClock
    let now ← IO.monoMsNow
    let s := ((s.observe fun _ => wall).advance now).receive line
    let (forwarded, s) := s.collect
    for text in forwarded do
      output.putStrLn text
    output.flush
    serveLines input output s

/-- Runs the service with the configuration in this file. -/
def runService (path : String) : IO UInt32 := do
  let text? ← readText? path
  let wall ← readWallClock
  let now ← IO.monoMsNow
  match Service.startFile path text? (.start fun _ => wall) now with
  | .error e =>
    IO.eprintln e.complaint
    return 1
  | .ok s =>
    serveLines (← IO.getStdin) (← IO.getStdout) s
    return 0

/-- Does what the arguments ask for. -/
def main (arguments : List String) : IO UInt32 := do
  match Command.ofArguments? (← IO.getEnv Command.configVariable) arguments with
  | some (.serve path) => runService path
  | none =>
    IO.eprintln Command.usage
    return 2
