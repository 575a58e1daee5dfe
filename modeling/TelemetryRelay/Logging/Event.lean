namespace TelemetryRelay

inductive LogLevel where
  | error
  | warn
  | info
  | debug
  | trace
  deriving Repr, DecidableEq

def LogLevel.rank : LogLevel → Nat
  | error => 1
  | warn => 2
  | info => 3
  | debug => 4
  | trace => 5

def LogLevel.name : LogLevel → String
  | error => "ERROR"
  | warn => "WARN"
  | info => "INFO"
  | debug => "DEBUG"
  | trace => "TRACE"

structure LogEvent where
  level : LogLevel
  message : String
  details : List String := []
  deriving Repr, DecidableEq

namespace LogEvent

def target : String := "sensor_uplink"

def hasField (e : LogEvent) (name : String) : Bool :=
  name == "message" || e.details.contains name

def render (e : LogEvent) : String :=
  e.level.name ++ " " ++ target ++ ": " ++ e.message

end LogEvent
end TelemetryRelay
