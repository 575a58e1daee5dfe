namespace TelemetryRelay

inductive RecordError where
  | invalidParameter
  | bufferFull
  | invalidState
  | outOfMemory
  | invalidMeasurement
  | invalidTagKey
  | invalidFieldKey
  deriving Repr, DecidableEq

def RecordError.message : RecordError → String
  | invalidParameter => "Invalid parameter"
  | bufferFull => "Buffer full"
  | invalidState => "Invalid state"
  | outOfMemory => "Memory allocation failed"
  | invalidMeasurement => "Invalid measurement name"
  | invalidTagKey => "Invalid tag key"
  | invalidFieldKey => "Invalid field key"

end TelemetryRelay
