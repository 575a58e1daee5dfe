namespace TelemetryRelay

abbrev Bytes := List UInt8

namespace Utf8

def encode (text : String) : Bytes :=
  text.toUTF8.toList

def decode? (bytes : Bytes) : Option String :=
  String.fromUTF8? bytes.toByteArray

/-- What may follow the first byte of a character: how many continuation bytes, and the range of
the first of them. `none` for a byte that starts no character. -/
def continuation (lead : UInt8) : Option (Nat × UInt8 × UInt8) :=
  if lead < 0x80 then some (0, 0x80, 0xBF)
  else if lead < 0xC2 then none
  else if lead < 0xE0 then some (1, 0x80, 0xBF)
  else if lead = 0xE0 then some (2, 0xA0, 0xBF)
  else if lead = 0xED then some (2, 0x80, 0x9F)
  else if lead < 0xF0 then some (2, 0x80, 0xBF)
  else if lead = 0xF0 then some (3, 0x90, 0xBF)
  else if lead < 0xF4 then some (3, 0x80, 0xBF)
  else if lead = 0xF4 then some (3, 0x80, 0x8F)
  else none

/-- The leading bytes that continue a character, at most `count` of them: the first within
`low` and `high`, the others anywhere among the continuation bytes. -/
def continuing : Nat → UInt8 → UInt8 → Bytes → Bytes
  | count + 1, low, high, b :: rest =>
    if low ≤ b ∧ b ≤ high then b :: continuing count 0x80 0xBF rest else []
  | _, _, _, _ => []

def assemble (lead : UInt8) (tail : Bytes) : Char :=
  let payload := match tail.length with
    | 0 => lead.toNat
    | 1 => lead.toNat % 32
    | 2 => lead.toNat % 16
    | _ => lead.toNat % 8
  Char.ofNat (tail.foldl (fun n b => n * 64 + b.toNat % 64) payload)

def decodeLossyOnto (done : List Char) : Bytes → List Char
  | [] => done.reverse
  | lead :: rest =>
    match continuation lead with
    | none => decodeLossyOnto ('\uFFFD' :: done) rest
    | some (count, low, high) =>
      let tail := continuing count low high rest
      let c := if tail.length = count then assemble lead tail else '\uFFFD'
      decodeLossyOnto (c :: done) (rest.drop tail.length)
termination_by bytes => bytes.length
decreasing_by
  · simp
  · simp only [List.length_drop, List.length_cons]; omega

/-- Reads bytes as text, with U+FFFD for each longest beginning of a character that breaks off
or for each byte that starts none. -/
def decodeLossy (bytes : Bytes) : String :=
  String.ofList (decodeLossyOnto [] bytes)

def size (cs : List Char) : Nat :=
  cs.foldl (fun n c => n + c.utf8Size) 0

def takeBytes? : Nat → List Char → Option (List Char)
  | 0, _ => some []
  | _ + 1, [] => none
  | count + 1, c :: rest =>
    if c.utf8Size ≤ count + 1 then (takeBytes? (count + 1 - c.utf8Size) rest).map (c :: ·) else none

def dropBytes? : Nat → List Char → Option (List Char)
  | 0, cs => some cs
  | _ + 1, [] => none
  | count + 1, c :: rest =>
    if c.utf8Size ≤ count + 1 then dropBytes? (count + 1 - c.utf8Size) rest else none

/-- The characters between two byte offsets; `none` if the offsets are not in order, or one of them
lies beyond the text or within a character. -/
def slice? (cs : List Char) (start stop : Nat) : Option (List Char) :=
  if start ≤ stop then (dropBytes? start cs).bind (takeBytes? (stop - start)) else none

def find? (p : Char → Bool) : List Char → Option Nat
  | [] => none
  | c :: rest => if p c then some 0 else (find? p rest).map (c.utf8Size + ·)

def isBoundary : List Char → Nat → Bool
  | _, 0 => true
  | [], _ + 1 => false
  | c :: rest, i => c.utf8Size ≤ i && isBoundary rest (i - c.utf8Size)

def cutBack (cs : List Char) : Nat → Nat
  | 0 => 0
  | i + 1 => if isBoundary cs (i + 1) then i + 1 else cutBack cs i

def takeOnto (done : List Char) : Nat → List Char → List Char
  | _, [] => done.reverse
  | size, c :: rest =>
    if c.utf8Size ≤ size then takeOnto (c :: done) (size - c.utf8Size) rest else done.reverse

/-- The text if it has at most `limit` bytes, and otherwise its part before the last boundary that
is not beyond `limit`. -/
def truncate (limit : Nat) (text : String) : String :=
  if text.utf8ByteSize ≤ limit then text
  else String.ofList (takeOnto [] (cutBack text.toList limit) text.toList)

end Utf8
end TelemetryRelay
