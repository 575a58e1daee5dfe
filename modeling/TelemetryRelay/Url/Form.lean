import TelemetryRelay.Text.Blank
import TelemetryRelay.Url.Percent

namespace TelemetryRelay.Form

def isPlain (b : UInt8) : Bool :=
  (0x30 ≤ b && b ≤ 0x39) || (0x41 ≤ b && b ≤ 0x5A) || (0x61 ≤ b && b ≤ 0x7A) || b == 0x2A ||
    b == 0x2D || b == 0x2E || b == 0x5F

def encodeByte (b : UInt8) : List Char :=
  if isPlain b then [Char.ofNat b.toNat]
  else if b == 0x20 then ['+']
  else Percent.encodeByte b

def encodeText (text : String) : List Char :=
  (Utf8.encode text).flatMap encodeByte

def encodePair : String × String → List Char
  | (name, value) => encodeText name ++ '=' :: encodeText value

/-- The written form of pairs, `name=value&name=value`: a space is written as a plus sign, and every
other byte but letters, digits and `*-._` is percent-encoded. -/
def encode (pairs : List (String × String)) : List Char :=
  ['&'].intercalate (pairs.map encodePair)

def decodeText (cs : List Char) : String :=
  let spaced := cs.map fun c => if c == '+' then ' ' else c
  Utf8.decodeLossy (Percent.decode (Utf8.encode (String.ofList spaced)))

/-- The pair of a written form; without an equals sign the value is empty. -/
def decodePair (cs : List Char) : String × String :=
  match Text.splitFirst '=' cs with
  | some (name, value) => (decodeText name, decodeText value)
  | none => (decodeText cs, "")

def decode (cs : List Char) : List (String × String) :=
  ((cs.splitOn '&').filter fun part => !part.isEmpty).map decodePair

end TelemetryRelay.Form
