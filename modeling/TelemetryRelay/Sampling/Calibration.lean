import TelemetryRelay.Decimal.Binary64

namespace TelemetryRelay

structure Line (α : Type) where
  slope : α
  offset : α
  deriving Repr, DecidableEq

def Line.apply {α : Type} [Add α] [Mul α] (line : Line α) (x : α) : α :=
  x * line.slope + line.offset

inductive CalibrationError where
  | tooFewPoints (got : Nat)
  | notFinite (index : Nat)
  deriving Repr, DecidableEq

namespace Calibration

def minPoints : Nat := 3

structure Sums (α : Type) where
  x : α
  y : α
  xy : α
  xx : α

section
variable {α : Type} [Add α] [Sub α] [Mul α] [Div α] [NatCast α] [BEq α]

def Sums.add (s : Sums α) (p : α × α) : Sums α :=
  { x := s.x + p.1, y := s.y + p.2, xy := s.xy + p.1 * p.2, xx := s.xx + p.1 * p.1 }

def Sums.of (points : List (α × α)) : Sums α :=
  points.foldl Sums.add ⟨(0 : Nat), (0 : Nat), (0 : Nat), (0 : Nat)⟩

/-- `n` times the sum of squares less the square of the sum: how far the points spread. -/
def spread (n : α) (s : Sums α) : α :=
  n * s.xx - s.x * s.x

/-- The line of least squares; the flat line at the mean if the points do not spread. -/
def fit (points : List (α × α)) : Line α :=
  let n : α := points.length
  let s := Sums.of points
  let denominator := spread n s
  if denominator == ((0 : Nat) : α) then ⟨(0 : Nat), s.y / n⟩
  else
    let slope := (n * s.xy - s.x * s.y) / denominator
    ⟨slope, (s.y - slope * s.x) / n⟩

def leastSquares (isFinite : α → Bool) (points : List (α × α)) :
    Except CalibrationError (Line α) :=
  if points.length < minPoints then .error (.tooFewPoints points.length)
  else
    match points.findIdx? fun p => !isFinite p.1 || !isFinite p.2 with
    | some i => .error (.notFinite i)
    | none => .ok (fit points)

end

/-- One step of smoothing: the first sample counts alone, and a later one with weight `alpha`
against what came before. -/
def smooth (previous : Option Float) (sample alpha : Float) : Float :=
  match previous with
  | none => sample
  | some p => p * (1.0 - alpha) + sample * alpha

end Calibration

def CalibrationError.message : CalibrationError → String
  | tooFewPoints got =>
    "Need at least " ++ toString Calibration.minPoints ++ " calibration points, got " ++
      toString got
  | notFinite index => "Calibration point " ++ toString index ++ " is not finite"

instance natCastFloat : NatCast Float where
  natCast := Float.ofNat

def Calibration.leastSquaresFloat (points : List (Float × Float)) :
    Except CalibrationError (Line Float) :=
  leastSquares Binary64.isFinite points

end TelemetryRelay
