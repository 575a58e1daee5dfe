namespace TelemetryRelay.Punycode

def digit (d : Nat) : Char :=
  if d < 26 then Char.ofNat ('a'.toNat + d) else Char.ofNat ('0'.toNat + (d - 26))

def digitValue? (c : Char) : Option Nat :=
  if 'a' ≤ c && c ≤ 'z' then some (c.toNat - 'a'.toNat)
  else if 'A' ≤ c && c ≤ 'Z' then some (c.toNat - 'A'.toNat)
  else if c.isDigit then some (c.toNat - '0'.toNat + 26)
  else none

def threshold (position bias : Nat) : Nat :=
  min 26 (max 1 (position - bias))

def reduce (delta count : Nat) : Nat :=
  if 455 < delta then reduce (delta / 35) (count + 36) else count + 36 * delta / (delta + 38)
termination_by delta
decreasing_by omega

/-- The bias after a number `delta`, when `points` characters stand there. -/
def adapt (delta points : Nat) (first : Bool) : Nat :=
  let delta := if first then delta / 700 else delta / 2
  reduce (delta + delta / points) 0

def numberDigits (bias position q : Nat) : List Char :=
  let t := threshold position bias
  if q < t then [digit q]
  else digit (t + (q - t) % (36 - t)) :: numberDigits bias (position + 36) ((q - t) / (36 - t))
termination_by q
decreasing_by
  have := Nat.div_le_self (q - threshold position bias) (36 - threshold position bias)
  have : 1 ≤ threshold position bias := by unfold threshold; omega
  omega

structure Encoder where
  done : List Char
  delta : Nat := 0
  bias : Nat := 72
  count : Nat
  first : Bool := true

def encodeAt (n : Nat) (e : Encoder) (c : Char) : Encoder :=
  if c.toNat < n then { e with delta := e.delta + 1 }
  else if c.toNat = n then
    { done := (numberDigits e.bias 36 e.delta).reverse ++ e.done
      delta := 0
      bias := adapt e.delta (e.count + 1) e.first
      count := e.count + 1
      first := false }
  else e

/-- Encodes the characters with these numbers, which increase; `least` is the least number that
may still come. -/
def encodeAll (text : List Char) (least : Nat) (e : Encoder) : List Nat → Encoder
  | [] => e
  | n :: rest =>
    let e := { e with delta := e.delta + (n - least) * (e.count + 1) }
    let e := text.foldl (encodeAt n) e
    encodeAll text (n + 1) { e with delta := e.delta + 1 } rest

/-- The encoded form of a text: the characters of ASCII come first, and then each other character is
put in by its place, as a number with digits of varying weight. -/
def encode (text : List Char) : List Char :=
  let plain := text.filter fun c => c.toNat < 0x80
  let beyond := ((text.map Char.toNat).filter (0x80 ≤ ·)).mergeSort.eraseDups
  let start := if plain.isEmpty then [] else plain ++ ['-']
  (encodeAll text 0x80 { done := start.reverse, count := plain.length } beyond).done.reverse

/-- Reads the digits of one number off the front; neither it nor a weight takes more than
thirty-two bits. -/
def readNumber (bias position weight value : Nat) : List Char → Option (Nat × List Char)
  | [] => none
  | c :: rest =>
    match digitValue? c with
    | none => none
    | some d =>
      let t := threshold position bias
      let value := value + d * weight
      let next := weight * (36 - t)
      if 2 ^ 32 ≤ value then none
      else if d < t then some (value, rest)
      else if 2 ^ 32 ≤ next then none
      else readNumber bias (position + 36) next value rest

def insertAll (text : List Char) (n place bias : Nat) : Nat → List Char → Option (List Char)
  | 0, _ => none
  | _ + 1, [] => some text
  | fuel + 1, cs =>
    match readNumber bias 36 1 place cs with
    | none => none
    | some (value, rest) =>
      let size := text.length + 1
      let n := n + value / size
      if n.isValidChar then
        let text := text.insertIdx (value % size) (Char.ofNat n)
        insertAll text n (value % size + 1) (adapt (value - place) size (place = 0)) fuel rest
      else none

/-- The text of an encoded form. A hyphen with nothing before it sets nothing apart. -/
def decode (cs : List Char) : Option (List Char) :=
  let digits := (cs.reverse.takeWhile (· != '-')).reverse
  let plain := cs.take (cs.length - digits.length - 1)
  if plain.isEmpty then insertAll [] 0x80 0 72 (cs.length + 1) cs
  else insertAll plain 0x80 0 72 (digits.length + 1) digits

end TelemetryRelay.Punycode
