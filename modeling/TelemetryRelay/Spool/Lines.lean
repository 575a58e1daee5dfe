import TelemetryRelay.Text.Utf8

namespace TelemetryRelay.Spool

def lineFeed : UInt8 := 0x0A

def carriageReturn : UInt8 := 0x0D

def trimLine (line : Bytes) : Bytes :=
  if line.getLast? = some carriageReturn then line.dropLast else line

/-- The lines of a file. A line ends at a line feed; a carriage return before that belongs to the
ending, and blank lines do not count. -/
def lines (content : Bytes) : List Bytes :=
  ((content.splitOn lineFeed).map trimLine).filter fun line => !line.isEmpty

def ofLines (lines : List Bytes) : Bytes :=
  lines.flatMap fun line => line ++ [lineFeed]

end TelemetryRelay.Spool
