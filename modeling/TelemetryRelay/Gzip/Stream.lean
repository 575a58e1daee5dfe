import TelemetryRelay.Gzip.Checksum
import TelemetryRelay.Text.Groups

namespace TelemetryRelay.Gzip

def header : Bytes :=
  [0x1F, 0x8B, 0x08, 0x00, 0x00, 0x00, 0x00, 0x00, 0x00, 0xFF]

def maxBlock : Nat := 65535

/-- One stored block: whether it is the last one, its size, the complement of that, and the text. -/
def storedBlock (last : Bool) (piece : Bytes) : Bytes :=
  (if last then 1 else 0) ::
    (littleEndian 2 piece.length ++ littleEndian 2 (maxBlock - piece.length) ++ piece)

def storedBlocks : List Bytes → Bytes
  | [] => storedBlock true []
  | [piece] => storedBlock true piece
  | piece :: rest => storedBlock false piece ++ storedBlocks rest

def deflate (text : Bytes) : Bytes :=
  storedBlocks (Text.groups maxBlock text)

def trailer (text : Bytes) : Bytes :=
  littleEndian 4 (checksum text).toNat ++ littleEndian 4 text.length

/-- The gzip stream of a text: a header of ten bytes, deflate data, and a trailer with the checksum
and the size of the text. The deflate data is a sequence of stored blocks. -/
def compress (text : Bytes) : Bytes :=
  header ++ deflate text ++ trailer text

/-- Reads stored blocks up to the last one, and returns the text and what follows. `done` holds the
pieces so far, the last one first. -/
def inflateOnto (done : List Bytes) (data : Bytes) : Option (Bytes × Bytes) :=
  match data with
  | mark :: a :: b :: c :: d :: rest =>
    let size := ofLittleEndian [a, b]
    if ofLittleEndian [c, d] ≠ maxBlock - size ∨ rest.length < size then none
    else if mark = 1 then some ((rest.take size :: done).reverse.flatten, rest.drop size)
    else if mark = 0 then inflateOnto (rest.take size :: done) (rest.drop size)
    else none
  | _ => none
termination_by data.length
decreasing_by
  simp only [List.length_drop, List.length_cons]
  omega

def inflate (data : Bytes) : Option (Bytes × Bytes) :=
  inflateOnto [] data

def decompress (stream : Bytes) : Option Bytes :=
  if stream.take header.length = header then
    match inflate (stream.drop header.length) with
    | some (text, rest) => if rest = trailer text then some text else none
    | none => none
  else none

/-- The text of a batch: every line with a line feed after it. -/
def batchText (lines : List Bytes) : Bytes :=
  lines.flatMap fun line => line ++ [0x0A]

def compressBatch (lines : List Bytes) : Bytes :=
  compress (batchText lines)

end TelemetryRelay.Gzip
