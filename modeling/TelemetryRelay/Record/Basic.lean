import TelemetryRelay.Record.Point

namespace TelemetryRelay

structure Record where
  text : String
  deriving Repr, DecidableEq

namespace Record

def size (r : Record) : Nat :=
  r.text.utf8ByteSize

def bytes (r : Record) : Bytes :=
  Utf8.encode r.text

def dropLastIf (c : Char) (cs : List Char) : List Char :=
  if cs.getLast? = some c then cs.dropLast else cs

/-- Takes a line as a record if it reads as one. One line feed and then one carriage return are
dropped from its end; none may be left. -/
def parse (line : String) : Except RecordError Record :=
  let cs := dropLastIf '\r' (dropLastIf '\n' line.toList)
  if cs.any Text.isLineBreak then .error .invalidParameter
  else (Point.read (String.ofList cs)).map fun _ => ⟨String.ofList cs⟩

end Record
end TelemetryRelay
