import TelemetryRelay.Sampling.Calibration
import TelemetryRelay.Settings.Basic

namespace TelemetryRelay

/-- One input. `raw` is absent before the first reading and after a failed one, and `filtered` until
smoothing has been applied. -/
structure Channel where
  id : String
  unit : String
  line : Line Float := ⟨1.0, 0.0⟩
  enabled : Bool := true
  raw : Option Int32 := none
  filtered : Option Float := none

namespace Channel

def ofSettings (s : ChannelSettings) : Channel :=
  { id := s.id, unit := s.unit, line := ⟨s.slope, s.offset⟩, enabled := s.enabled }

def withLine (line : Line Float) (c : Channel) : Channel :=
  { c with line }

def update (raw : Int32) (c : Channel) : Channel :=
  { c with raw := some raw }

def markUnavailable (c : Channel) : Channel :=
  { c with raw := none }

def countToFloat (raw : Int32) : Float :=
  Float.ofInt raw.toInt

def smooth (alpha : Float) (c : Channel) : Channel :=
  match c.raw with
  | none => c
  | some raw => { c with filtered := some (Calibration.smooth c.filtered (countToFloat raw) alpha) }

/-- The physical value: the calibrated smoothed reading, or the calibrated reading if nothing has
been smoothed. Absent without a reading. -/
def value (c : Channel) : Option Float :=
  c.raw.map fun raw => c.line.apply (c.filtered.getD (countToFloat raw))

end Channel
end TelemetryRelay
