import TelemetryRelay.Settings.Basic
import TelemetryRelay.Toml.Document

namespace TelemetryRelay
namespace Decode

abbrev Decoder (α : Type) := Toml.Value → Option α

def text : Decoder String
  | .text s => some s
  | _ => none

def flag : Decoder Bool
  | .boolean b => some b
  | _ => none

/-- An integer that is not negative and below `bound`. -/
def natBelow (bound : Nat) : Decoder Nat
  | .integer n => if 0 ≤ n ∧ n < bound then some n.toNat else none
  | _ => none

def number : Decoder Nat :=
  natBelow UInt64.size

def double : Decoder Float
  | .float v => some v
  | .integer n => some (Binary64.ofSignedBits (n < 0) (Binary64.nearestBits n.natAbs 1))
  | _ => none

/-- The setting with a key, or the one at an index if the settings stand in an array. Without it the
answer is `missing`, and unknown keys say nothing. A date or time has no settings in it. -/
def entry {α : Type} (key : String) (index : Nat) (missing : Option α) (decode : Decoder α) :
    Decoder α
  | .table entries =>
    match entries.lookup key with
    | some v => decode v
    | none => missing
  | .array items =>
    match items[index]? with
    | some v => decode v
    | none => missing
  | .moment => missing
  | _ => none

def database : Decoder DatabaseSettings := fun v => do
  let d : DatabaseSettings := {}
  return {
    url := ← entry "url" 0 (some d.url) text v
    org := ← entry "org" 1 (some d.org) text v
    bucket := ← entry "bucket" 2 (some d.bucket) text v
    token := ← entry "token" 3 (some d.token) text v }

def transport : Decoder TransportSettings := fun v => do
  let d : TransportSettings := {}
  return {
    connectTimeout := ← entry "connect_timeout_s" 0 (some d.connectTimeout) number v
    timeout := ← entry "timeout_s" 1 (some d.timeout) number v }

def spool : Decoder SpoolSettings := fun v => do
  let d : SpoolSettings := {}
  return {
    path := ← entry "path" 0 (some d.path) text v
    batchLines := ← entry "batch_lines" 1 (some d.batchLines) number v
    replayInterval := ← entry "replay_interval_s" 2 (some d.replayInterval) number v }

def sampling : Decoder SamplingSettings := fun v => do
  let d : SamplingSettings := {}
  return {
    interval := ← entry "interval_ms" 0 (some d.interval) number v
    measurement := ← entry "measurement" 1 (some d.measurement) text v
    sourceTag := ← entry "source_tag" 2 (some d.sourceTag) text v
    filterEnabled := ← entry "filter_enabled" 3 (some d.filterEnabled) flag v
    filterAlpha := ← entry "filter_alpha" 4 (some d.filterAlpha) double v
    readRetries := ← entry "read_retries" 5 (some d.readRetries) (natBelow UInt32.size) v
    readRetryDelay := ← entry "read_retry_delay_ms" 6 (some d.readRetryDelay) number v }

def channel : Decoder ChannelSettings := fun v => do
  let id ← entry "id" 0 none text v
  let d : ChannelSettings := { id }
  return {
    id
    unit := ← entry "unit" 1 (some d.unit) text v
    slope := ← entry "slope" 2 (some d.slope) double v
    offset := ← entry "offset" 3 (some d.offset) double v
    enabled := ← entry "enabled" 4 (some d.enabled) flag v }

def channels : Decoder (List ChannelSettings)
  | .array items => items.mapM channel
  | _ => none

def logging : Decoder LoggingSettings := fun v => do
  let d : LoggingSettings := {}
  return {
    level := ← entry "level" 0 (some d.level) text v
    directory := ← entry "directory" 1 (some d.directory) (fun v => (text v).map some) v }

def settings : Decoder Settings := fun v => do
  let d : Settings := {}
  return {
    database := ← entry "influxdb" 0 (some d.database) database v
    transport := ← entry "transport" 1 (some d.transport) transport v
    spool := ← entry "spool" 2 (some d.spool) spool v
    sampling := ← entry "sampling" 3 (some d.sampling) sampling v
    channels := ← entry "channels" 4 (some d.channels) channels v
    logging := ← entry "logging" 5 (some d.logging) logging v }

end Decode

def Settings.ofText? (document : String) : Option Settings :=
  (Toml.read document).bind Decode.settings

end TelemetryRelay
