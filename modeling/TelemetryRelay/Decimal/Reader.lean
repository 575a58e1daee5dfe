import TelemetryRelay.Decimal.Binary64
import TelemetryRelay.Decimal.Digits

namespace TelemetryRelay

/-- A decimal numeral: `±digits * 10 ^ exponent`, with `digits` written in `width` figures. -/
structure Numeral where
  negative : Bool
  digits : Nat
  width : Nat
  exponent : Int
  deriving Repr, DecidableEq

namespace Numeral

/-- The bits, without sign, of the double nearest to the numeral's magnitude. A numeral whose first
figure stands beyond the range of doubles on either side is decided by that alone. -/
def magnitudeBits (n : Numeral) : Nat :=
  if n.digits = 0 then 0
  else if 400 < n.exponent then Binary64.infinityBits
  else if n.width + n.exponent < -330 then 0
  else
    match n.exponent with
    | .ofNat e => min Binary64.infinityBits (Binary64.nearestBits (n.digits * Nat.pow 10 e) 1)
    | .negSucc e => min Binary64.infinityBits (Binary64.nearestBits n.digits (Nat.pow 10 (e + 1)))

def toFloat (n : Numeral) : Float :=
  Binary64.ofSignedBits n.negative n.magnitudeBits

def toFinite? (n : Numeral) : Option Float :=
  if n.magnitudeBits < Binary64.infinityBits then some n.toFloat else none

end Numeral

namespace Decimal

def takeSign : List Char → Bool × List Char
  | '-' :: rest => (true, rest)
  | '+' :: rest => (false, rest)
  | rest => (false, rest)

def readNat? (cs : List Char) : Option Nat :=
  if cs.isEmpty || !cs.all Char.isDigit then none else some (Digits.decimal cs)

def readInt? (cs : List Char) : Option Int :=
  match takeSign cs with
  | (negative, rest) => (readNat? rest).map fun n => if negative then -n else n

def readInt64? (cs : List Char) : Option Int64 :=
  match readInt? cs with
  | some n =>
    if Int64.minValue.toInt ≤ n ∧ n ≤ Int64.maxValue.toInt then some (Int64.ofInt n) else none
  | none => none

/-- The exponent that digits spell. It is far beyond doubles once it reaches `0x10000`, and the
digits after that do not count. -/
def exponentOf (negative : Bool) (ds : List Char) : Int :=
  let n := ds.foldl (fun n d => if n < 0x10000 then n * 10 + (d.toNat - '0'.toNat) else n) 0
  if negative then -n else n

def readExponent? : List Char → Option Int
  | [] => some 0
  | e :: rest =>
    match takeSign rest with
    | (negative, ds) =>
      if (e == 'e' || e == 'E') && !ds.isEmpty && ds.all Char.isDigit then
        some (exponentOf negative ds)
      else none

/-- A numeral: an optional sign, figures with an optional point, at least one figure on one of its
sides, and an optional exponent. -/
def readNumeral? (cs : List Char) : Option Numeral :=
  match takeSign cs with
  | (negative, rest) =>
    match rest.span Char.isDigit with
    | (whole, rest) =>
      let (fraction, rest) := match rest with
        | '.' :: rest => rest.span Char.isDigit
        | _ => ([], rest)
      let figures := whole ++ fraction
      if figures.isEmpty then none
      else (readExponent? rest).map fun e =>
        { negative
          digits := Digits.decimal figures
          width := figures.length
          exponent := e - fraction.length }

def readFinite? (cs : List Char) : Option Float :=
  (readNumeral? cs).bind Numeral.toFinite?

end Decimal
end TelemetryRelay
