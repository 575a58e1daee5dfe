import TelemetryRelay.Files.Tree
import TelemetryRelay.Spool.Lines
import TelemetryRelay.Text.Blank

namespace TelemetryRelay

/-- The two files of a spool: the records that wait, one on each line and the oldest first, and a
temporary file for the time of a replay. Neither can be reached if the place where they are is no
directory. -/
structure SpoolFiles where
  reachable : Bool := true
  spool : Entry := .absent
  temporary : Entry := .absent
  deriving Repr, DecidableEq

def SpoolFiles.seen (f : SpoolFiles) : Entry × Entry :=
  if f.reachable then (f.spool, f.temporary) else (.absent, .absent)

/-- Why the names of a spool's files do not allow to look the spool up, to append to it, or to make
the temporary file. -/
structure SpoolNames where
  lookup : Option FileError := none
  append : Option FileError := none
  temporary : Option FileError := none
  deriving Repr, DecidableEq

structure Spool where
  files : SpoolFiles := {}
  batchLines : Nat := 5000
  names : SpoolNames := {}
  batchLines_pos : 0 < batchLines := by decide
  deriving Repr, DecidableEq

namespace Spool

def ofFiles (files : SpoolFiles) (batchLines : Nat) : Spool :=
  { files, batchLines := max batchLines 1, batchLines_pos := by omega }

def temporaryName (path : String) : String :=
  path ++ ".tmp"

/-- Opens the same files anew. Their directory is made if it is missing, but nothing else may stand
in its place. -/
def reopen (s : Spool) (batchLines : Nat) : Except FileError Spool :=
  if s.files.reachable then
    .ok { s with batchLines := max batchLines 1, batchLines_pos := by omega }
  else .error .alreadyExists

def nameFault? (path : String) : Option FileError :=
  (Path.fault? path).or
    (if (Path.ofString path).getLast?.any Path.isLongName then some .nameTooLong else none)

/-- Why the file at a path that is written for a directory cannot be made. -/
def directoryFault? (path : String) (e : Entry) : Option FileError :=
  if path.isEmpty then some .notFound
  else if !Path.asksForDirectory path then none
  else if !Path.endsInside path then some .isDirectory
  else
    match e with
    | .absent => some .notFound
    | .file _ => some .notDirectory
    | .directory => some .isDirectory

def namesAt (path : String) (e : Entry) : SpoolNames :=
  let isBlocked := Path.asksForDirectory path && (e matches .file _)
  { lookup := (nameFault? path).or (if isBlocked then some .notDirectory else none)
    append := (nameFault? path).or (directoryFault? path e)
    temporary := nameFault? (temporaryName path) }

def seenAt (tree : Tree) (path : String) : Entry :=
  match tree.find (Path.ofString path) with
  | .ok (.file content) => if Path.asksForDirectory path then .absent else .file content
  | .ok e => if path.isEmpty then .absent else e
  | .error _ => .absent

def makePlace (tree : Tree) (path : String) : Except FileError Unit × Tree :=
  match Path.fault? (Path.parentText path) with
  | some e => (.error e, tree)
  | none => tree.makeDirectories (Path.ofString path).dropLast

def ofTree (tree : Tree) (path : String) (batchLines : Nat) : Spool :=
  let files : SpoolFiles :=
    { spool := seenAt tree path, temporary := seenAt tree (temporaryName path) }
  let names := namesAt path ((tree.find (Path.ofString path)).toOption.getD .absent)
  { ofFiles files batchLines with names }

def openAt (tree : Tree) (path : String) (batchLines : Nat) : Except FileError Spool × Tree :=
  match makePlace tree path with
  | (.ok (), tree) => (.ok (ofTree tree path batchLines), tree)
  | (.error e, tree) => (.error e, tree)

/-- The line that is written for a record: without the line breaks at its end, and with none
inside. -/
def lineOf (record : String) : Except FileError Bytes :=
  let cs := Text.dropTrailing Text.isLineBreak record.toList
  if cs.any Text.isLineBreak then .error .recordSpansLines
  else .ok (Utf8.encode (String.ofList cs) ++ [lineFeed])

/-- Why a file of the spool cannot be reached: a name that no directory has is found out before the
place is looked at, and any other fault of the name after that. -/
def hindrance (s : Spool) (fault : Option FileError) : Option FileError :=
  if s.files.reachable || fault == some .invalidName then fault else some .notDirectory

def append (record : String) (s : Spool) : Except FileError Unit × Spool :=
  match lineOf record with
  | .error e => (.error e, s)
  | .ok line =>
    match s.hindrance s.names.append with
    | some e => (.error e, s)
    | none =>
      match s.files.spool with
      | .directory => (.error .isDirectory, s)
      | .absent => (.ok (), { s with files := { s.files with spool := .file line } })
      | .file content =>
        (.ok (), { s with files := { s.files with spool := .file (content ++ line) } })

def pending (s : Spool) : Except FileError Nat :=
  match s.hindrance s.names.lookup with
  | some e => .error e
  | none =>
    match s.files.spool with
    | .directory => .error .isDirectory
    | .absent => .ok 0
    | .file content => .ok (lines content).length

end Spool
end TelemetryRelay
