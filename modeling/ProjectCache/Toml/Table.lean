/-
# ProjectCache.Toml.Table — the rules by which keys and headers build tables.

A table comes into being in one of three ways: by its own header, by the header of a table inside
it, or by a dotted key. A name is given a value once, and a table is opened by a header once; a
header may still open a table that only headers inside it have implied, and dotted keys may add to
tables that dotted keys have made, but neither may touch a table of the other origin. A name may
also hold an array of tables, to which each of its headers adds one; keys and headers that go
through the name mean the last of them.

`Tables` is the state of a document between two lines. The operations refuse what breaks the rules.
A new name goes behind those that are there; so does a table that was implied when its own header
opens it.
-/
import ProjectCache.Toml.Text
import ProjectCache.Toml.Value

namespace ProjectCache.Toml

/-- How a table came into being. -/
inductive Origin where
  | header
  | implied
  | dotted
  deriving DecidableEq, Repr

/-- What a name holds: a value, a table with its members, or tables of which the last comes
first. -/
inductive Node where
  | value (value : Value)
  | table (origin : Origin) (members : List (String × Node))
  | tables (latest : List (String × Node)) (earlier : List (List (String × Node)))

/-- The members of a table that is being built, in the order of writing. -/
abbrev Tables := List (String × Node)

namespace Tables

/-- Puts a node under a name: in place of the one that is there, else behind the others. -/
def put (name : String) (node : Node) : Tables → Tables
  | [] => [(name, node)]
  | (n, old) :: rest => if n = name then (n, node) :: rest else (n, old) :: put name node rest

/-- Puts a node under a name behind the others. -/
def putLast (name : String) (node : Node) (tables : Tables) : Tables :=
  tables.filter (fun entry => entry.1 != name) ++ [(name, node)]

/-! ## Keys and values -/

/-- Gives a name in the table at a path a value. The path was written before the name with dots, so
the table it ends in must be one that dotted keys have made. -/
def assign (name : String) (value : Value) : List String → Tables → Option Tables
  | [], tables =>
    match Entries.find? name tables with
    | none => some (put name (.value value) tables)
    | some _ => none
  | key :: path, tables =>
    let enter (change : Tables → Node) (inner : Tables) : Option Tables :=
      (assign name value path inner).map fun inner => put key (change inner) tables
    match Entries.find? key tables with
    | none => enter (.table .dotted) []
    | some (.table .dotted inner) => enter (.table .dotted) inner
    | some (.table .implied inner) => if path.isEmpty then none else enter (.table .implied) inner
    | some (.tables latest earlier) =>
      if path.isEmpty then none else enter (.tables · earlier) latest
    | some (.table .header _) => none
    | some (.value _) => none

/-! ## Headers -/

/-- Changes the table at a path of headers. Tables that are not there are implied. -/
def within (change : Tables → Option Tables) : List String → Tables → Option Tables
  | [], tables => change tables
  | key :: path, tables =>
    let enter (rebuild : Tables → Node) (inner : Tables) : Option Tables :=
      (within change path inner).map fun inner => put key (rebuild inner) tables
    match Entries.find? key tables with
    | none => enter (.table .implied) []
    | some (.table origin inner) => enter (.table origin) inner
    | some (.tables latest earlier) => enter (.tables · earlier) latest
    | some (.value _) => none

/-- Opens a table by its header. -/
def openTable (key : Key) : Tables → Option Tables :=
  within (fun tables =>
    match Entries.find? key.name tables with
    | none => some (put key.name (.table .header []) tables)
    | some (.table .implied inner) =>
      some (putLast key.name (.table .header inner) tables)
    | some _ => none) key.path

/-- Adds a table to an array of tables by its header. -/
def addTable (key : Key) : Tables → Option Tables :=
  within (fun tables =>
    match Entries.find? key.name tables with
    | none => some (put key.name (.tables [] []) tables)
    | some (.tables latest earlier) =>
      some (put key.name (.tables [] (latest :: earlier)) tables)
    | some _ => none) key.path

/-- Gives a key in the table of the last header a value. -/
def assignIn (header : List String) (key : Key) (value : Value) : Tables → Option Tables :=
  within (assign key.name value key.path) header

end Tables

/-! ## The finished value -/

mutual

/-- The value of what a name holds. -/
def Node.finish : Node → Value
  | .value value => value
  | .table _ members => .table (finishMembers members)
  | .tables latest earlier => .array (finishTables earlier [.table (finishMembers latest)])

/-- The members of a table. -/
def finishMembers : List (String × Node) → List (String × Value)
  | [] => []
  | (name, node) :: rest => (name, node.finish) :: finishMembers rest

/-- The values of tables of which the last comes first, before others. -/
def finishTables : List (List (String × Node)) → List Value → List Value
  | [], later => later
  | members :: earlier, later => finishTables earlier (.table (finishMembers members) :: later)

end

/-- The table of an inline table's keys and values. -/
def inlineTable? (pairs : List (Key × Value)) : Option Value :=
  let enter (tables : Tables) (pair : Key × Value) : Option Tables :=
    Tables.assign pair.1.name pair.2 pair.1.path tables
  (pairs.foldlM enter []).map fun tables => .table (finishMembers tables)

end ProjectCache.Toml
