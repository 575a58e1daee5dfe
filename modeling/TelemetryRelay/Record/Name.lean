namespace TelemetryRelay.Name

def isMeasurementChar (c : Char) : Bool :=
  c.isAlphanum || c == '_' || c == '-' || c == '.'

def isKeyChar (c : Char) : Bool :=
  c.isAlphanum || c == '_'

/-- A measurement name is not empty, does not begin with an underscore, and has only letters and
digits of ASCII, underscores, hyphens and points. -/
def isMeasurement (name : String) : Bool :=
  !name.toList.isEmpty && name.toList.head? != some '_' && name.toList.all isMeasurementChar

def isKey (key : String) : Bool :=
  !key.toList.isEmpty && key.toList.all isKeyChar

end TelemetryRelay.Name
