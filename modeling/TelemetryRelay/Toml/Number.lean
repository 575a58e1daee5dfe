import TelemetryRelay.Decimal.Reader
import TelemetryRelay.Toml.Text

namespace TelemetryRelay.Toml

/-- The digits without the underscores between them; every underscore stands between two digits. -/
def digits? (isDigit : Char → Bool) (cs : List Char) : Option (List Char) :=
  let parts := cs.splitOn '_'
  if parts.all fun part => !part.isEmpty && part.all isDigit then some parts.flatten else none

def wholeDigits? (cs : List Char) : Option (List Char) :=
  match digits? Char.isDigit cs with
  | some ('0' :: _) => if cs = ['0'] then some ['0'] else none
  | other => other

def numberInBase? (base : Nat) (cs : List Char) : Option Nat :=
  (digits? (fun c => (hexDigit? c).any (· < base)) cs).map fun ds =>
    Digits.value base (ds.reverse.map fun c => (hexDigit? c).getD 0)

def readInteger? (cs : List Char) : Option Int :=
  let value : Option Int := match cs with
    | '0' :: 'x' :: rest => (numberInBase? 16 rest).map Int.ofNat
    | '0' :: 'o' :: rest => (numberInBase? 8 rest).map Int.ofNat
    | '0' :: 'b' :: rest => (numberInBase? 2 rest).map Int.ofNat
    | _ =>
      match Decimal.takeSign cs with
      | (negative, rest) =>
        (wholeDigits? rest).map fun ds =>
          let n : Int := Digits.decimal ds
          if negative then -n else n
  value.filter fun n => Int64.minValue.toInt ≤ n && n ≤ Int64.maxValue.toInt

def readSpecial? (cs : List Char) : Option Float :=
  match Decimal.takeSign cs with
  | (negative, rest) =>
    if rest = "inf".toList then some (Binary64.ofSignedBits negative Binary64.infinityBits)
    else if rest = "nan".toList then
      some (Binary64.ofSignedBits negative (Binary64.infinityBits + Binary64.twoTo 51))
    else none

def isFigure (c : Char) : Bool :=
  c.isDigit || c == '_'

def readPower? (cs : List Char) : Option Int :=
  match Decimal.takeSign cs with
  | (negative, rest) =>
    (digits? Char.isDigit rest).map (Decimal.exponentOf negative)

def readNumeral? (cs : List Char) : Option Numeral :=
  match Decimal.takeSign cs with
  | (negative, rest) =>
    let whole := rest.takeWhile isFigure
    let rest := rest.dropWhile isFigure
    let (fraction, rest) := match rest with
      | '.' :: rest => (some (rest.takeWhile isFigure), rest.dropWhile isFigure)
      | _ => (none, rest)
    let (exponent, rest) := match rest with
      | 'e' :: rest | 'E' :: rest => (some rest, [])
      | _ => (none, rest)
    if !rest.isEmpty || (fraction.isNone && exponent.isNone) then none
    else do
      let whole ← wholeDigits? whole
      let fraction ← match fraction with
        | some f => digits? Char.isDigit f
        | none => some []
      let power ← match exponent with
        | some e => readPower? e
        | none => some 0
      return {
        negative
        digits := Digits.decimal (whole ++ fraction)
        width := (whole ++ fraction).length
        exponent := power - fraction.length }

/-- A double; one that is too large is refused unless it is negative. -/
def readFloat? (cs : List Char) : Option Float :=
  match readNumeral? cs with
  | some n => if n.negative || n.magnitudeBits < Binary64.infinityBits then some n.toFloat else none
  | none => readSpecial? cs

end TelemetryRelay.Toml
