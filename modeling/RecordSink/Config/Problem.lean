import RecordSink.Failure
/-!
Problems of a service: a configuration that is wrong, a failure of storage, or a scheduler that no
longer accepts work.
-/
namespace RecordSink

/-- The type of a configuration parameter. -/
inductive ParameterType where
  | bool
  | int64
  | uint64
  | text
  deriving DecidableEq, Repr

/-- The type of value that a parameter needs, in words. -/
def ParameterType.needed : ParameterType → String
  | bool => "bool"
  | int64 => "integer"
  | uint64 => "integer"
  | text => "string"

/-- What is wrong with a configuration. -/
inductive Problem where
  /-- The file cannot be read, or is not a configuration file. -/
  | unreadable
  /-- The section is no table. -/
  | noTable
  /-- The section has a parameter that nobody declared. -/
  | unknownParameter (name : String)
  /-- The value of the parameter has another type. -/
  | wrongType (name : String) (type : ParameterType)
  /-- The value of the parameter is below zero. -/
  | negative (name : String) (n : Int)
  /-- The section lacks a parameter that has no default. -/
  | missingParameter (name description : String)
  /-- A value that the options need is not there. -/
  | unsetParameter (name : String)
  /-- The schedule is neither of the two. -/
  | unknownSchedule (text : String)
  /-- The parameter can be changed by a restart only. -/
  | needsRestart (name : String)
  /-- The section of the database can be changed by a restart only. -/
  | databaseChanged
  /-- A problem found outside, in its own words. -/
  | reported (words : String)
  deriving DecidableEq, Repr

/-- The problem in words. -/
def Problem.message : Problem → String
  | unreadable => "the configuration file cannot be read"
  | noTable => "store config must be a table/object"
  | unknownParameter name => "unknown parameter '" ++ name ++ "'"
  | wrongType name type => "parameter '" ++ name ++ "': expected " ++ type.needed
  | negative name n =>
    "parameter '" ++ name ++ "': expected non-negative integer, got " ++ intText n
  | missingParameter name description =>
    "missing required parameter '" ++ name ++ "' (" ++ description ++ ")"
  | unsetParameter name => "parameter '" ++ name ++ "' is not set"
  | unknownSchedule text =>
    "parameter 'cleanup_schedule': expected \"once\" or \"recurring\", got \"" ++ text ++ "\""
  | needsRestart name =>
    "parameter '" ++ name ++
      "' has context 'postmaster' and cannot be changed at runtime (requires restart)"
  | databaseChanged => "[database] cannot be changed at runtime (requires restart)"
  | reported words => words

/-- What stops a service from doing what it was asked. -/
inductive ServiceError where
  /-- A problem of the configuration, and what was being done, innermost first. -/
  | configuration (problem : Problem) (contexts : List String)
  /-- A failure of storage. -/
  | storage (f : Failure)
  /-- Retention was shut down for good. -/
  | shutDown
  /-- A failure of something outside, in its own words. -/
  | outside (words : String)
  deriving DecidableEq, Repr

namespace ServiceError

/-- A problem of the configuration without context. -/
def ofProblem (problem : Problem) : ServiceError :=
  configuration problem []

/-- The error while something larger was being done. Only problems of the configuration and failures
of storage carry contexts. -/
def within (context : String) : ServiceError → ServiceError
  | configuration problem contexts => configuration problem (contexts ++ [context])
  | storage f => storage (f.within context)
  | shutDown => shutDown
  | outside words => outside words

/-- The error in words. -/
def display : ServiceError → String
  | configuration problem contexts =>
    "config error: " ++ contexts.foldl (fun text context => context ++ ": " ++ text) problem.message
  | storage f => "store error: " ++ f.display
  | shutDown => "retention scheduler is shut down"
  | outside words => "io error: " ++ words

end ServiceError
end RecordSink
