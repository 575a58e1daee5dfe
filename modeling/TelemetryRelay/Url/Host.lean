import TelemetryRelay.Url.Name
import TelemetryRelay.Url.Percent

namespace TelemetryRelay

inductive Host where
  | name (text : String)
  | ipv4 (address : Nat)
  | ipv6 (groups : List Nat)
  deriving Repr, DecidableEq

namespace Host

/-- The number in a part of an address of four bytes, after `0x` in base 16 and after `0` in base
8. -/
def ipv4Part? (cs : List Char) : Option Nat :=
  let (base, ds) := match cs with
    | '0' :: 'x' :: rest | '0' :: 'X' :: rest => (16, rest)
    | '0' :: d :: rest => (8, d :: rest)
    | _ => (10, cs)
  if cs.isEmpty then none
  else ds.foldlM (fun n c => (Percent.hexValue? c).bind fun d =>
    if d < base then some (n * base + d) else none) 0

def ipv4Parts (cs : List Char) : List (List Char) :=
  let parts := cs.splitOn '.'
  if 1 < parts.length ∧ parts.getLast? = some [] then parts.dropLast else parts

def endsInNumber (cs : List Char) : Bool :=
  match (ipv4Parts cs).getLast? with
  | some last => (!last.isEmpty && last.all Char.isDigit) || (ipv4Part? last).isSome
  | none => false

/-- An address of four bytes; the last part fills all the bytes that are left. -/
def readIpv4 (cs : List Char) : Except UrlError Nat :=
  let parts := ipv4Parts cs
  match parts.mapM ipv4Part? with
  | none => .error .invalidIpv4
  | some numbers =>
    let leading := numbers.dropLast
    let last := numbers.getLastD 0
    if 4 < numbers.length || leading.any (255 < ·) || Nat.pow 256 (4 - leading.length) ≤ last then
      .error .invalidIpv4
    else .ok (leading.foldl (fun n b => n * 256 + b) 0 * Nat.pow 256 (4 - leading.length) + last)

def ipv6Group? (cs : List Char) : Option Nat :=
  if cs.isEmpty || 4 < cs.length then none
  else cs.foldlM (fun n c => (Percent.hexValue? c).map fun d => n * 16 + d) 0

def byte? (cs : List Char) : Option Nat :=
  let n := Nat.ofDigitChars 10 cs 0
  if cs.isEmpty || !cs.all Char.isDigit || (1 < cs.length && cs.head? = some '0') || 255 < n then
    none
  else some n

def ipv6Groups? (cs : List Char) : Option (List Nat) :=
  if cs.isEmpty then some []
  else
    let parts := cs.splitOn ':'
    let last := parts.getLastD []
    if last.contains '.' then
      match parts.dropLast.mapM ipv6Group?, (last.splitOn '.').mapM byte? with
      | some groups, some [a, b, c, d] => some (groups ++ [a * 256 + b, c * 256 + d])
      | _, _ => none
    else parts.mapM ipv6Group?

def splitGap (done : List Char) : List Char → Option (List Char × List Char)
  | ':' :: ':' :: rest => some (done.reverse, rest)
  | c :: rest => splitGap (c :: done) rest
  | [] => none

/-- An address of eight groups; two colons stand for one or more groups that are zero. -/
def readIpv6 (cs : List Char) : Except UrlError (List Nat) :=
  match splitGap [] cs with
  | none =>
    match ipv6Groups? cs with
    | some groups => if groups.length = 8 then .ok groups else .error .invalidIpv6
    | none => .error .invalidIpv6
  | some (before, after) =>
    match ipv6Groups? before, ipv6Groups? after with
    | some front, some back =>
      if before.contains '.' || 7 < front.length + back.length then .error .invalidIpv6
      else .ok (front ++ List.replicate (8 - front.length - back.length) 0 ++ back)
    | _, _ => .error .invalidIpv6

def readBracketed? (cs : List Char) : Option (Except UrlError Host) :=
  match cs with
  | '[' :: rest =>
    if rest.getLast? = some ']' then some ((readIpv6 rest.dropLast).map ipv6)
    else some (.error .invalidIpv6)
  | _ => none

def readSpecial (cs : List Char) : Except UrlError Host :=
  match readBracketed? cs with
  | some answer => answer
  | none => do
    let text := Utf8.decodeLossy (Percent.decode (Utf8.encode (String.ofList cs)))
    let name ← Url.lookupName text.toList
    if name.isEmpty then .error .emptyHost
    else if endsInNumber name then return ipv4 (← readIpv4 name)
    else return .name (String.ofList name)

def isForbiddenElsewhere (c : Char) : Bool :=
  c == '\x00' || "\t\n\r #/:<>?@[\\]^|".toList.contains c

def readOther (cs : List Char) : Except UrlError Host :=
  match readBracketed? cs with
  | some answer => answer
  | none =>
    if cs.any isForbiddenElsewhere then .error .invalidHostChar
    else .ok (.name (String.ofList (Percent.encode Percent.isControl cs)))

def zerosAhead (groups : List Nat) : Nat :=
  (groups.takeWhile (· == 0)).length

def longestZeros (groups : List Nat) : Nat × Nat :=
  (List.range groups.length).foldl (fun (start, size) i =>
    let n := zerosAhead (groups.drop i)
    if size < n then (i, n) else (start, size)) (0, 0)

def renderGroups (groups : List Nat) : List Char :=
  [':'].intercalate (groups.map (Nat.toDigits 16))

/-- An address of eight groups, where the longest run of two or more zeros is left out. -/
def renderIpv6 (groups : List Nat) : List Char :=
  let (start, size) := longestZeros groups
  if size < 2 then renderGroups groups
  else renderGroups (groups.take start) ++ "::".toList ++ renderGroups (groups.drop (start + size))

def renderIpv4 (n : Nat) : List Char :=
  ['.'].intercalate ([n / 16777216, n / 65536 % 256, n / 256 % 256, n % 256].map (Nat.toDigits 10))

def render : Host → String
  | name text => text
  | ipv4 n => String.ofList (renderIpv4 n)
  | ipv6 groups => String.ofList ('[' :: renderIpv6 groups ++ [']'])

end Host
end TelemetryRelay
