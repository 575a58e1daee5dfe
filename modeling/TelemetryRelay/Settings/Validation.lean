import TelemetryRelay.Decimal.Binary64
import TelemetryRelay.Record.Name
import TelemetryRelay.Settings.Basic
import TelemetryRelay.Settings.Fault
import TelemetryRelay.Text.Blank

namespace TelemetryRelay.Settings

def maxChannels : Nat := 16

def firstFault (rules : List (Bool × SettingsFault)) : Option SettingsFault :=
  (rules.find? fun (broken, _) => broken).map fun (_, fault) => fault

def isOutside (low high n : Nat) : Bool :=
  n < low || high < n

def isWebAddress (url : String) : Bool :=
  "http://".toList.isPrefixOf url.toList || "https://".toList.isPrefixOf url.toList

/-- The first fault of a channel, where `earlier` are the ids of those before it. -/
def channelFault (earlier : List String) (c : ChannelSettings) : Option SettingsFault :=
  firstFault [
    (!Name.isKey c.id, .channelId c.id),
    (earlier.contains c.id, .duplicateChannel c.id),
    (!Binary64.isFinite c.slope || !Binary64.isFinite c.offset, .channelLine c.id)]

def channelsFault (earlier : List String) : List ChannelSettings → Option SettingsFault
  | [] => none
  | c :: rest =>
    match channelFault earlier c with
    | some fault => some fault
    | none => channelsFault (c.id :: earlier) rest

def generalFault (s : Settings) : Option SettingsFault :=
  firstFault [
    (s.database.url.isEmpty, .empty "influxdb.url"),
    (s.database.org.isEmpty, .empty "influxdb.org"),
    (s.database.bucket.isEmpty, .empty "influxdb.bucket"),
    (s.database.token.isEmpty, .empty "influxdb.token"),
    (!isWebAddress s.database.url, .urlScheme),
    (isOutside 1 60 s.transport.connectTimeout, .outOfRange "connect_timeout_s" 1 60),
    (isOutside 1 300 s.transport.timeout, .outOfRange "timeout_s" 1 300),
    (s.transport.timeout < s.transport.connectTimeout, .timeoutTooShort),
    (s.spool.path.isEmpty, .emptySpoolPath),
    (isOutside 1 100000 s.spool.batchLines, .outOfRange "batch_lines" 1 100000),
    (isOutside 1 86400 s.spool.replayInterval, .outOfRange "replay_interval_s" 1 86400),
    (isOutside 10 3600000 s.sampling.interval, .outOfRange "interval_ms" 10 3600000),
    (!Name.isMeasurement s.sampling.measurement, .measurement s.sampling.measurement),
    (!Name.isKey s.sampling.sourceTag, .sourceTag),
    (!(0.0 < s.sampling.filterAlpha && s.sampling.filterAlpha ≤ 1.0), .filterAlpha),
    (isOutside 0 10 s.sampling.readRetries, .atMost "read_retries" 10),
    (isOutside 0 1000 s.sampling.readRetryDelay, .atMost "read_retry_delay_ms" 1000),
    (maxChannels < s.channels.length, .tooManyChannels maxChannels),
    (!s.channels.any (·.enabled), .noChannel)]

def loggingFault (s : LoggingSettings) : Option SettingsFault :=
  firstFault [((Text.trim s.level.toList).isEmpty, .emptyLevel)]

/-- The first fault of the settings: the rules are looked at in a fixed order. -/
def fault? (s : Settings) : Option SettingsFault :=
  match generalFault s with
  | some fault => some fault
  | none =>
    match channelsFault [] s.channels with
    | some fault => some fault
    | none => loggingFault s.logging

def validate (s : Settings) : Except SettingsFault Unit :=
  match s.fault? with
  | some fault => .error fault
  | none => .ok ()

end TelemetryRelay.Settings
