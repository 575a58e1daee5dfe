namespace TelemetryRelay

structure DatabaseSettings where
  url : String := ""
  org : String := ""
  bucket : String := ""
  token : String := ""
  deriving Repr, DecidableEq

structure TransportSettings where
  connectTimeout : Nat := 10
  timeout : Nat := 20
  deriving Repr, DecidableEq

structure SpoolSettings where
  path : String := "logs/offline_log.txt"
  batchLines : Nat := 5000
  replayInterval : Nat := 60
  deriving Repr, DecidableEq

structure SamplingSettings where
  interval : Nat := 1000
  measurement : String := "measurements"
  sourceTag : String := "instrumentacao"
  filterEnabled : Bool := false
  filterAlpha : Float := 0.1
  readRetries : Nat := 3
  readRetryDelay : Nat := 1

structure ChannelSettings where
  id : String
  unit : String := ""
  slope : Float := 1.0
  offset : Float := 0.0
  enabled : Bool := true

structure LoggingSettings where
  level : String := "info"
  directory : Option String := none
  deriving Repr, DecidableEq

def ChannelSettings.defaults : List ChannelSettings :=
  ["A0", "A1", "A2", "A3"].map fun id => { id, unit := "V" }

/-- All settings of a station. Every setting but the credentials and the ids of channels has a
default. -/
structure Settings where
  database : DatabaseSettings := {}
  transport : TransportSettings := {}
  spool : SpoolSettings := {}
  sampling : SamplingSettings := {}
  channels : List ChannelSettings := ChannelSettings.defaults
  logging : LoggingSettings := {}

end TelemetryRelay
