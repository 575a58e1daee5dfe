import TelemetryRelay.Failure
import TelemetryRelay.Settings.Decoder
import TelemetryRelay.Settings.Validation
import TelemetryRelay.Text.Utf8

namespace TelemetryRelay.Settings

abbrev Environment := List (String × String)

/-- The value of a variable, if there is one that is not empty; otherwise what was set before. -/
def override (env : Environment) (name : String) (before : String) : String :=
  match env.lookup name with
  | some value => if value.isEmpty then before else value
  | none => before

def applyOverrides (env : Environment) (s : Settings) : Settings :=
  { s with database := {
      url := override env "INFLUXDB_URL" s.database.url
      org := override env "INFLUXDB_ORG" s.database.org
      bucket := override env "INFLUXDB_BUCKET" s.database.bucket
      token := override env "INFLUXDB_TOKEN" s.database.token } }

/-- Loads settings from the content of a file and then from variables of the environment, which win
over it, and checks them. -/
def load (content : Except FileError Bytes) (env : Environment) : Except Failure Settings :=
  match content with
  | .error e => .error (.file e)
  | .ok bytes =>
    match Utf8.decode? bytes with
    | none => .error (.file .malformedText)
    | some document =>
      match ofText? document with
      | none => .error (.settings .malformed)
      | some s =>
        let s := s.applyOverrides env
        match s.validate with
        | .ok () => .ok s
        | .error fault => .error (.settings fault)

end TelemetryRelay.Settings
