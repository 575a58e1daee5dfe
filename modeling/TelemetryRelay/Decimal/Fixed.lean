import TelemetryRelay.Decimal.Binary64

namespace TelemetryRelay.Decimal

def digits (n : Nat) : List Char :=
  Nat.toDigits 10 n

def padded (width n : Nat) : List Char :=
  List.leftpad width '0' (digits n)

def ofInt (n : Int) : String :=
  String.ofList ((if n < 0 then ['-'] else []) ++ digits n.natAbs)

/-- How many millionths the magnitude of a finite double has, a half rounded to even. -/
def millionths (v : Float) : Nat :=
  Binary64.roundHalfEven (Binary64.units v * 1000000) (Binary64.twoTo 1074)

def fixedDigits (v : Float) : List Char :=
  (if Binary64.isNegative v then ['-'] else []) ++
    digits (millionths v / 1000000) ++ '.' :: padded 6 (millionths v % 1000000)

/-- A double with six decimal places, or `NaN`, `inf` and `-inf`. -/
def fixed (v : Float) : String :=
  if Binary64.isNaN v then "NaN"
  else if !Binary64.isFinite v then (if Binary64.isNegative v then "-inf" else "inf")
  else String.ofList (fixedDigits v)

end TelemetryRelay.Decimal
