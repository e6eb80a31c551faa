import RecordSink.Entries
import RecordSink.Toml.Basic
/-!
Tables while a document is read. Where a table comes from decides what may still be added to it: a
table with a header, or written between braces, is complete after that; one that only the header of
another implies can still get a header of its own; and one that a dotted key makes can be extended by
dotted keys only. Headers may pass through all of these. A path that meets tables in a row leads into
the last one. Entries are in the order in which they came; an implied table comes anew with its header.
-/
namespace RecordSink.Toml

/-- Where a table comes from. -/
inductive Origin where
  /-- It has a header. -/
  | header
  /-- It is on the path of the header of another table. -/
  | implied
  /-- It is on the path of a dotted key. -/
  | dotted
  deriving DecidableEq, Repr

/-- What an entry of a table is while the document is read. -/
inductive Node where
  /-- A value, to which nothing can be added. -/
  | value (v : Toml)
  /-- A table. -/
  | table (origin : Origin) (entries : List (String × Node))
  /-- Tables in a row, each under the same header. -/
  | row (earlier : List (List (String × Node))) (last : List (String × Node))

namespace Node

mutual

/-- An entry as data. -/
def data : Node → Toml
  | value v => v
  | table _ entries => .table (dataEntries entries)
  | row earlier last => .array (dataRow earlier ++ [.table (dataEntries last)])

/-- Entries as data. -/
def dataEntries : List (String × Node) → List (String × Toml)
  | [] => []
  | (name, node) :: rest => (name, node.data) :: dataEntries rest

/-- Tables in a row as data. -/
def dataRow : List (List (String × Node)) → List Toml
  | [] => []
  | entries :: rest => .table (dataEntries entries) :: dataRow rest

end

end Node

/-- The entries of a table. -/
abbrev Nodes := Entries Node

namespace Nodes

/-- The entries with a value under a dotted key. The name must be free, and the table that it is put
into must be the one that the key starts from or made by dotted keys. -/
def put (key : List String) (v : Toml) (entries : Nodes) : Option Nodes :=
  match key with
  | [] => none
  | [name] => if (entries.lookup name).isSome then none else some (entries ++ [(name, .value v)])
  | name :: path =>
    match entries.lookup name with
    | none => do return entries ++ [(name, .table .dotted (← put path v []))]
    | some (.table .header _) => none
    | some (.table .implied below) =>
      if path.length = 1 then none
      else do return Entries.put name (.table .implied (← put path v below)) entries
    | some (.table .dotted below) => do
      return Entries.put name (.table .dotted (← put path v below)) entries
    | some (.row earlier last) =>
      if path.length = 1 then none
      else do return Entries.put name (.row earlier (← put path v last)) entries
    | some (.value _) => none

/-- The entries with values under several dotted keys, one after the other. -/
def putAll (entries : Nodes) (settings : List (List String × Toml)) : Option Nodes :=
  settings.foldlM (fun entries (key, v) => put key v entries) entries

/-- The entries with a change to those at the end of a path, under the last name of it. -/
def alter (change : String → Nodes → Option Nodes) (path : List String) (entries : Nodes) :
    Option Nodes :=
  match path with
  | [] => none
  | [name] => change name entries
  | name :: path =>
    match entries.lookup name with
    | none => do return entries ++ [(name, .table .implied (← alter change path []))]
    | some (.table origin below) => do
      return Entries.put name (.table origin (← alter change path below)) entries
    | some (.row earlier last) => do
      return Entries.put name (.row earlier (← alter change path last)) entries
    | some (.value _) => none

/-- The entries with the table of a header, with these settings. It must be new, or implied so far,
and comes last. -/
def startTable (settings : List (List String × Toml)) (name : String) (entries : Nodes) :
    Option Nodes :=
  match entries.lookup name with
  | none => do return entries ++ [(name, .table .header (← putAll [] settings))]
  | some (.table .implied below) => do
    return Entries.remove name entries ++ [(name, .table .header (← putAll below settings))]
  | some _ => none

/-- The entries with one more table in a row, with these settings. -/
def extendRow (settings : List (List String × Toml)) (name : String) (entries : Nodes) :
    Option Nodes :=
  match entries.lookup name with
  | none => do return entries ++ [(name, .row [] (← putAll [] settings))]
  | some (.row earlier last) => do
    return Entries.put name (.row (earlier ++ [last]) (← putAll [] settings)) entries
  | some _ => none

/-- The members of the table that holds the values under dotted keys. -/
def membersOf (settings : List (List String × Toml)) : Option (List (String × Toml)) := do
  return Node.dataEntries (← putAll [] settings)

end Nodes
end RecordSink.Toml
