import RecordSink.Entries
import RecordSink.Number.Double
/-!
JSON data: what is left of a JSON text when notation is forgotten. Numbers are integers of at most
64 bits, with or without sign, or doubles; objects have their members in ascending order of names,
each name once.
-/
namespace RecordSink

/-- JSON data. -/
inductive Json where
  | null
  | bool (b : Bool)
  | int (n : Int)
  | double (d : Double)
  | string (s : String)
  | array (items : List Json)
  | object (members : List (String × Json))
  deriving Repr, Inhabited

namespace Json

/-- The object with these members; the last one of a name counts. -/
def ofMembers (members : List (String × Json)) : Json :=
  object (Entries.sorted members)

end Json
end RecordSink
