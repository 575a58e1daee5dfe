import TelemetryRelay.Toml.Value

namespace TelemetryRelay.Toml

/-- How a table came to be, which decides what may be added to it later: a header opens a table
once, and dotted keys extend only tables that dotted keys have made. -/
inductive Origin where
  | declared
  | implied
  | dotted
  deriving Repr, DecidableEq

inductive Node where
  | value (v : Value)
  | table (origin : Origin) (entries : List (String × Node))
  | tables (latestFirst : List (List (String × Node)))

abbrev Entries := List (String × Node)

namespace Entries

def put (key : String) (node : Node) : Entries → Entries
  | [] => [(key, node)]
  | (k, n) :: rest => if k = key then (k, node) :: rest else (k, n) :: put key node rest

/-- Changes the table at a path with `act`, which is told where that table came from. Missing tables
on the way are made with origin `fresh`. What is no table, or may not be extended by a dotted key,
makes the whole fail. -/
def descend (fresh : Origin) (act : Origin → Entries → Option Entries) :
    List String → Origin → Entries → Option Entries
  | [], origin, entries => act origin entries
  | key :: rest, _, entries =>
    match entries.lookup key with
    | none =>
      (descend fresh act rest fresh []).map fun child => entries.put key (.table fresh child)
    | some (.value _) => none
    | some (.table origin child) =>
      if fresh = .dotted ∧ origin = .declared then none
      else
        (descend fresh act rest origin child).map fun child => entries.put key (.table origin child)
    | some (.tables []) => none
    | some (.tables (latest :: earlier)) =>
      (descend fresh act rest .declared latest).map fun latest =>
        entries.put key (.tables (latest :: earlier))

def locate : List String → Entries → Option Entries
  | [], entries => some entries
  | key :: rest, entries =>
    match entries.lookup key with
    | none => some []
    | some (.table _ child) => locate rest child
    | some (.tables (latest :: _)) => locate rest latest
    | some (.value _) | some (.tables []) => none

/-- Adds a value under a key with dots, of which `parents` are the parts before the last. No key is
given twice, and no table is made partly by dotted keys and partly in another way. -/
def addValue (parents : List String) (key : String) (v : Value) (entries : Entries) :
    Option Entries :=
  descend .dotted (fun origin entries =>
      if (origin == .dotted) == parents.isEmpty || (entries.lookup key).isSome then none
      else some (entries ++ [(key, .value v)]))
    parents .declared entries

end Entries

mutual

def Node.toValue : Node → Value
  | .value v => v
  | .table _ entries => .table (Entries.toValues entries)
  | .tables latestFirst => .array (Entries.toTables latestFirst).reverse

def Entries.toValues : List (String × Node) → List (String × Value)
  | [] => []
  | (key, node) :: rest => (key, node.toValue) :: Entries.toValues rest

def Entries.toTables : List (List (String × Node)) → List Value
  | [] => []
  | entries :: rest => .table (Entries.toValues entries) :: Entries.toTables rest

end

end TelemetryRelay.Toml
