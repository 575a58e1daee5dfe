import TelemetryRelay.Files.Path

namespace TelemetryRelay

inductive Entry where
  | absent
  | file (content : Bytes)
  | directory
  deriving Repr, DecidableEq

/-- The files and directories below a directory; so are the root of all files and what is below
it, as far as it is known. -/
structure Tree where
  entries : List (Path × Entry) := []
  deriving Repr, DecidableEq

namespace Tree

def entry (t : Tree) (place : Path) : Entry :=
  if place = [Path.root] || place.all (· == Path.up) then .directory
  else (t.entries.lookup place).getD .absent

def put (path : Path) (e : Entry) (t : Tree) : Tree :=
  { t with entries := (path, e) :: t.entries.filter fun (p, _) => p != path }

/-- Goes the way `ahead` from the place `here`. The first thing in the way decides what goes wrong:
what is missing is not found, and what is no directory cannot be entered. -/
def enter (t : Tree) (here : Path) : Path → Except FileError Path
  | [] => .ok here
  | name :: ahead =>
    if name = Path.up then enter t (Path.above here) ahead
    else if Path.isLongName name then .error .nameTooLong
    else
      match t.entry (here ++ [name]) with
      | .directory => enter t (here ++ [name]) ahead
      | .file _ => .error .notDirectory
      | .absent => .error .notFound

def locate (t : Tree) (path : Path) : Except FileError Path :=
  match path.getLast? with
  | none => .ok []
  | some name => do
    let place ← t.enter [] path.dropLast
    if name = Path.up then return Path.above place
    else if Path.isLongName name then .error .nameTooLong
    else return place ++ [name]

def find (t : Tree) (path : Path) : Except FileError Entry :=
  (t.locate path).map t.entry

def read (t : Tree) (text : String) : Except FileError Bytes :=
  match Path.fault? text with
  | some e => .error e
  | none =>
    if text.isEmpty then .error .notFound
    else
      match t.find (Path.ofString text) with
      | .error e => .error e
      | .ok .absent => .error .notFound
      | .ok .directory => .error .isDirectory
      | .ok (.file content) =>
        if Path.asksForDirectory text then .error .notDirectory else .ok content

/-- Makes directories on the way `ahead` from the place `here` where they are missing; those that
are made before something is in the way stay. Something that is no directory is found in the way
unless a directory was to be made at it, and `made` says whether one has been made before. -/
def makeDirectoriesFrom (t : Tree) (made : Bool) (here : Path) :
    Path → Except FileError Unit × Tree
  | [] => (.ok (), t)
  | name :: ahead =>
    let place := here ++ [name]
    if name = Path.up then makeDirectoriesFrom t made (Path.above here) ahead
    else if Path.isLongName name then (.error .nameTooLong, t)
    else
      match t.entry place with
      | .directory => makeDirectoriesFrom t made place ahead
      | .absent => makeDirectoriesFrom (t.put place .directory) true place ahead
      | .file _ => (.error (if made || ahead.isEmpty then .alreadyExists else .notDirectory), t)

def makeDirectories (t : Tree) (path : Path) : Except FileError Unit × Tree :=
  t.makeDirectoriesFrom false [] path

def makeDirectory (t : Tree) (text : String) : Except FileError Unit × Tree :=
  match Path.fault? text with
  | some e => (.error e, t)
  | none => t.makeDirectories (Path.ofString text)

def names (t : Tree) : List String :=
  ((t.entries.filterMap fun
    | (_, .absent) => none
    | (path, _) => path.head?).filter fun name => name != Path.root && name != Path.up).eraseDups

end Tree
end TelemetryRelay
