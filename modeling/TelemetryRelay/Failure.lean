import TelemetryRelay.Delivery.Error
import TelemetryRelay.Files.Error
import TelemetryRelay.Record.Error
import TelemetryRelay.Sampling.Sampler
import TelemetryRelay.Settings.Fault

namespace TelemetryRelay

inductive Failure where
  | record (error : RecordError)
  | delivery (error : DeliveryError)
  | sampler (error : SamplerError)
  | settings (fault : SettingsFault)
  | file (error : FileError)

/-- The wording of a failure; that of a settings fault ends the line. -/
def Failure.message : Failure → String
  | record e => "Line protocol error: " ++ e.message
  | delivery e => "Transport error: " ++ e.message
  | sampler e => "Sampler error: " ++ e.message
  | settings f => "Configuration error: " ++ f.message ++ "\n"
  | file e => "I/O error: " ++ e.message

end TelemetryRelay
