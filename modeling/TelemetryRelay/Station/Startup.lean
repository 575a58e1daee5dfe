import TelemetryRelay.CommandLine.Arguments
import TelemetryRelay.CommandLine.Report
import TelemetryRelay.Delivery.Client
import TelemetryRelay.Files.Tree
import TelemetryRelay.Logging.Filter
import TelemetryRelay.Settings.Loading
import TelemetryRelay.Spool.Basic

namespace TelemetryRelay

structure Station where
  settings : Settings
  spool : Spool
  client : Client

/-- What a start comes to. It is `withoutLog` if the files of the log cannot be made or its filter
cannot be cut into parts; a station that is ready ends nothing yet. -/
inductive Ending where
  | shown (text : String)
  | misused (e : UsageError)
  | refused (report : Report)
  | withoutLog
  | ready (station : Station)

def Ending.code : Ending → Nat
  | shown _ => 0
  | misused _ => 2
  | refused _ => 1
  | withoutLog => 101
  | ready _ => 0

structure Startup where
  ending : Ending
  events : List LogEvent := []
  tree : Tree

namespace Startup

def greeting : List LogEvent :=
  [⟨.info, "Sensor Uplink v0.1.0 starting...", []⟩, ⟨.debug, "Configuration loaded", ["config"]⟩]

def leftovers (path : String) (spool : Spool) : List LogEvent :=
  match spool.pending with
  | .ok (n + 1) =>
    [⟨.info, "Spool holds records from a previous run pending=" ++ toString (n + 1) ++ " path=" ++
      path, ["pending", "path"]⟩]
  | _ => []

def readiness (s : Station) : List LogEvent :=
  [⟨.info, "Writing to " ++ s.client.url.render, []⟩,
    ⟨.info, "Sampling every " ++ toString s.settings.sampling.interval ++ " ms", []⟩,
    ⟨.info, "Press Ctrl+C to exit", []⟩]

def makeLogPlace (s : LoggingSettings) (tree : Tree) : Except FileError Unit × Tree :=
  match s.directory with
  | none => (.ok (), tree)
  | some directory => tree.makeDirectory directory

/-- Makes spool and client ready for settings. All events are given, logged or not. -/
def equip (s : Settings) (tree : Tree) : Startup :=
  match Spool.openAt tree s.spool.path s.spool.batchLines with
  | (.error e, tree) =>
    { ending := .refused ⟨"failed to open spool", (Failure.file e).causes⟩
      events := greeting
      tree }
  | (.ok spool, tree) =>
    let events := greeting ++ leftovers s.spool.path spool
    match Client.ofSettings s.database with
    | .error e =>
      { ending := .refused ⟨"failed to build HTTP transport", [e.message]⟩, events, tree }
    | .ok client =>
      let station := { settings := s, spool, client }
      { ending := .ready station, events := events ++ readiness station, tree }

def run (file : String) (env : Settings.Environment) (tree : Tree) : Startup :=
  match Settings.load (tree.read file) env with
  | .error e =>
    { ending := .refused ⟨"failed to load configuration from " ++ file, e.causes⟩, tree }
  | .ok s =>
    match makeLogPlace s.logging tree with
    | (.error _, tree) => { ending := .withoutLog, tree }
    | (.ok (), tree) =>
      match LogFilter.choose (env.lookup "RUST_LOG") s.logging.level with
      | .error _ => { ending := .withoutLog, tree }
      | .ok filter =>
        let startup := equip s tree
        { startup with events := startup.events.filter filter.admits }

def start (arguments : List String) (env : Settings.Environment) (tree : Tree) : Startup :=
  match Arguments.read arguments with
  | .error e => { ending := .misused e, tree }
  | .ok .help => { ending := .shown Arguments.helpText, tree }
  | .ok .version => { ending := .shown Arguments.versionText, tree }
  | .ok (.run file) => run file env tree

end Startup
end TelemetryRelay
