import RecordSink.Config.Options
import RecordSink.Json.Printer
import RecordSink.Toml.Document
import RecordSink.Toml.Resolve
/-!
Configurations: documents with a section `store`, from which the settings of a store are made, and a
section `database`, which is handed to the database as it is. Both may be absent, and other sections
mean nothing.
-/
namespace RecordSink

/-- A configuration. -/
structure Configuration where
  /-- The section of the store. -/
  store : Option Toml
  /-- The section of the database. -/
  database : Option Toml

namespace Configuration

/-- The configuration that a text is, if it is one. -/
def ofText? (text : String) : Option Configuration := do
  let members ← Toml.parse? text
  return ⟨← Toml.dataAt? "store" members, ← Toml.dataAt? "database" members⟩

/-- The configuration that a text is. -/
def parse (text : String) : Except Problem Configuration :=
  match ofText? text with
  | some c => .ok c
  | none => .error .unreadable

/-- The configuration in the file of this name, whose text is given unless it cannot be read. -/
def ofFile (path : String) (text? : Option String) : Except ServiceError Configuration :=
  let parsed : Except Problem Configuration :=
    match text? with
    | some text => parse text
    | none => .error .unreadable
  parsed.mapError fun p => (ServiceError.ofProblem p).within path

/-- A section as JSON text; an absent one is the empty object. -/
def sectionText : Option Toml → String
  | some data => data.json.text
  | none => "\x7b\x7d"

/-- The settings of the store. -/
def settings (c : Configuration) : Except ServiceError Settings :=
  (Settings.validate (c.store.map Toml.json) Options.parameters).mapError ServiceError.ofProblem

/-- The settings of the store; a problem names the section. -/
def storeSettings (c : Configuration) : Except ServiceError Settings :=
  c.settings.mapError fun e => e.within "[store]"

/-- The options that settings stand for. -/
def options (s : Settings) : Except ServiceError Options :=
  (Options.ofSettings s).mapError ServiceError.ofProblem

end Configuration
end RecordSink
