import TelemetryRelay.Files.Error
import TelemetryRelay.Text.Blank
import TelemetryRelay.Text.Utf8

namespace TelemetryRelay

/-- A path from the directory of a tree: its names from the outermost on. A path from the root of
all files has the root's name `/` before the others, and two points lead to the directory above. -/
abbrev Path := List String

namespace Path

def root : String := "/"

def up : String := ".."

/-- The names of a path that is written with slashes. Empty names and single points say nothing. -/
def ofString (text : String) : Path :=
  let names := ((text.toList.splitOn '/').map String.ofList).filter fun name =>
    name != "" && name != "."
  if text.startsWith root then root :: names else names

def endsWithSlash (text : String) : Bool :=
  text.endsWith "/"

def trimReversed : List Char → List Char
  | '/' :: rest => trimReversed rest
  | ['.'] => ['.']
  | '.' :: '/' :: rest => trimReversed rest
  | cs => cs

def trimEnd (cs : List Char) : List Char :=
  (trimReversed cs.reverse).reverse

def trimStart : List Char → List Char
  | '/' :: rest => trimStart rest
  | '.' :: '/' :: rest => trimStart rest
  | ['.'] => []
  | cs => cs

/-- A path below a directory, without the slashes and the single points at its ends. -/
def trim (text : String) : String :=
  String.ofList (trimEnd (trimStart text.toList))

def parentText (text : String) : String :=
  String.ofList (trimEnd ((trimEnd text.toList).reverse.dropWhile (· != '/')).reverse)

/-- Whether the last thing in a path is the single point after a name: the name has to be entered. -/
def endsInside (text : String) : Bool :=
  let cs := text.toList.reverse.dropWhile (· == '/')
  cs.head? = some '.' && (cs.drop 1).head? = some '/'

def asksForDirectory (text : String) : Bool :=
  endsWithSlash text || endsInside text

def maxName : Nat := 255

def maxText : Nat := 4095

def isLongName (name : String) : Bool :=
  maxName < name.utf8ByteSize

def fault? (text : String) : Option FileError :=
  if text.toList.contains '\x00' then some .invalidName
  else if maxText < text.utf8ByteSize then some .nameTooLong
  else none

/-- The directory above a place; the root is above itself, and what is above the directory of the
tree is not in it. -/
def above (place : Path) : Path :=
  if place = [root] then place
  else if place.all (· == up) then up :: place
  else place.dropLast

end Path
end TelemetryRelay
