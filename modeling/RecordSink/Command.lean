/-!
The command line. There is one command, which runs the service; the file of its configuration is named
by an option, or else by the environment, or else has a standard name.
-/
namespace RecordSink

/-- What the program is asked to do. -/
inductive Command where
  /-- To run the service with the configuration in this file. -/
  | serve (config : String)
  deriving DecidableEq, Repr

namespace Command

/-- The variable of the environment that can name the configuration. -/
def configVariable : String :=
  "RECORD_SINK_CONFIG"

/-- The name of the configuration if nothing else is said. -/
def standardConfig : String :=
  "config.toml"

/-- How the program is called. -/
def usage : String :=
  "Usage: record-sink serve [--config <FILE>]"

/-- The value of an option that is joined to its name. -/
def joinedValue? (name argument : String) : Option String :=
  let start := (name ++ "=").toList
  if start.isPrefixOf argument.toList then some (String.ofList (argument.toList.drop start.length))
  else none

/-- What the arguments ask for, if they make sense; the environment may name a configuration. -/
def ofArguments? (fromEnvironment : Option String) : List String → Option Command
  | ["serve"] => some (serve (fromEnvironment.getD standardConfig))
  | ["serve", "--config", file] => some (serve file)
  | ["serve", argument] => (joinedValue? "--config" argument).map serve
  | _ => none

end Command
end RecordSink
