import TelemetryRelay.Toml.Inline

namespace TelemetryRelay.Toml

/-- A document in the making. `path` is that of the last header and `many` says whether it had
double brackets; the entries after it are kept apart in `current` until the next one. -/
structure Draft where
  entries : Entries := []
  path : List String := []
  many : Bool := false
  current : Entries := []

namespace Draft

def close (d : Draft) : Option Entries :=
  match d.path.getLast? with
  | none => some d.current
  | some key =>
    Entries.descend .implied (fun _ entries =>
        if d.many then
          match entries.lookup key with
          | some (.tables earlier) => some (entries.put key (.tables (d.current :: earlier)))
          | none => some (entries.put key (.tables [d.current]))
          | _ => none
        else some (entries.put key (.table .declared d.current)))
      d.path.dropLast .declared d.entries

/-- Begins the table of a header in single brackets. A header may name a table that others have
implied, but no table twice. -/
def openTable (path : List String) (d : Draft) : Option Draft := do
  let entries ← d.close
  let key := path.getLastD ""
  let parent ← entries.locate path.dropLast
  match parent.lookup key with
  | none => return { entries, path }
  | some (.table .implied current) => return { entries, path, current }
  | _ => none

def openItem (path : List String) (d : Draft) : Option Draft := do
  let entries ← d.close
  let parent ← entries.locate path.dropLast
  match parent.lookup (path.getLastD "") with
  | none | some (.tables _) => return { entries, path, many := true }
  | _ => none

def add (path : List String) (v : Value) (d : Draft) : Option Draft :=
  (d.current.addValue path.dropLast (path.getLastD "") v).map fun current => { d with current }

end Draft

def readLine (d : Draft) (cs : List Char) : Option (Draft × List Char) :=
  match cs with
  | '[' :: '[' :: rest =>
    match readKey rest with
    | some (path, ']' :: ']' :: rest) => do return (← d.openItem path, ← endLine? rest)
    | _ => none
  | '[' :: rest =>
    match readKey rest with
    | some (path, ']' :: rest) => do return (← d.openTable path, ← endLine? rest)
    | _ => none
  | _ =>
    match readKey cs with
    | some (path, '=' :: rest) => do
      let (v, rest) ← readValue (skipSpaces rest)
      return (← d.add path v, ← endLine? rest)
    | _ => none

def readLines (d : Draft) : Nat → List Char → Option Draft
  | 0, _ => none
  | fuel + 1, cs =>
    match skipBlank cs with
    | [] => some d
    | cs =>
      match readLine d cs with
      | none => none
      | some (d, rest) => readLines d fuel rest

/-- The entries of a document, if it is well formed. A byte order mark at its beginning does not
count. -/
def read (text : String) : Option Value :=
  let cs := match text.toList with
    | '\uFEFF' :: rest => rest
    | cs => cs
  do
    let d ← readLines {} (cs.length + 1) cs
    let entries ← d.close
    return .table (Entries.toValues entries)

end TelemetryRelay.Toml
