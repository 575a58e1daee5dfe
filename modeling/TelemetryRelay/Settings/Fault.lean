namespace TelemetryRelay

inductive SettingsFault where
  | malformed
  | empty (name : String)
  | urlScheme
  | outOfRange (name : String) (low high : Nat)
  | timeoutTooShort
  | emptySpoolPath
  | measurement (name : String)
  | sourceTag
  | filterAlpha
  | atMost (name : String) (high : Nat)
  | tooManyChannels (limit : Nat)
  | noChannel
  | channelId (id : String)
  | duplicateChannel (id : String)
  | channelLine (id : String)
  | emptyLevel
  deriving Repr, DecidableEq

def SettingsFault.message : SettingsFault → String
  | malformed => "TOML parse error"
  | empty name => name ++ " cannot be empty"
  | urlScheme => "influxdb.url must start with http:// or https://"
  | outOfRange name low high =>
    name ++ " must be between " ++ toString low ++ " and " ++ toString high
  | timeoutTooShort => "timeout_s must not be less than connect_timeout_s"
  | emptySpoolPath => "spool path cannot be empty"
  | measurement name => "measurement '" ++ name ++ "' is not a valid measurement name"
  | sourceTag => "source_tag must be non-empty and contain only letters, digits and '_'"
  | filterAlpha => "filter_alpha must be in (0.0, 1.0]"
  | atMost name high => name ++ " must be at most " ++ toString high
  | tooManyChannels limit => "at most " ++ toString limit ++ " channels are supported"
  | noChannel => "at least one channel must be enabled"
  | channelId id => "channel id '" ++ id ++ "' is not a valid field key"
  | duplicateChannel id => "duplicate channel id '" ++ id ++ "'"
  | channelLine id => "channel '" ++ id ++ "' slope and offset must be finite"
  | emptyLevel => "logging level cannot be empty"

end TelemetryRelay
