import Std.Time.DateTime.Timestamp
import TelemetryRelay.Sampling.Collector
import TelemetryRelay.Sampling.Publisher
import TelemetryRelay.Station.Startup

namespace TelemetryRelay.Program

def look (path : String) : IO Entry := do
  try
    return .file (← IO.FS.readBinFile path).toList
  catch
    | .inappropriateType _ 21 _ => return .directory
    | _ => return .absent

def survey (tree : Tree) (text : String) : IO Tree := do
  let path := Path.ofString text
  (List.range path.length).foldlM (fun tree n => do
    let path := path.take (n + 1)
    let e ← look ("/".intercalate path)
    match tree.locate path with
    | .ok place => return if e = .absent then tree else tree.put place e
    | .error _ => return tree) tree

def pathsOf (s : Settings) : List String :=
  [s.spool.path, Spool.temporaryName s.spool.path] ++ s.logging.directory.toList

def surveyAll (arguments : List String) (env : Settings.Environment) : IO Tree := do
  match Arguments.read arguments with
  | .ok (.run file) =>
    let tree ← survey {} file
    match Settings.load (tree.read file) env with
    | .ok s => (pathsOf s).foldlM survey tree
    | .error _ => return tree
  | _ => return {}

def environment : IO Settings.Environment := do
  let found ← ["INFLUXDB_URL", "INFLUXDB_ORG", "INFLUXDB_BUCKET", "INFLUXDB_TOKEN", "RUST_LOG"].mapM
    fun name => return (name, ← IO.getEnv name)
  return found.filterMap fun (name, value) => value.map fun value => (name, value)

def makeDirectories (tree : Tree) : IO Unit :=
  tree.entries.forM fun (path, e) => do
    if e = .directory then IO.FS.createDirAll ("/".intercalate path)

/-- Appends a record to the spool, and to the file that it is in. There is no connection here, so
every record goes this way, as it does while a server cannot be reached. -/
def keep (path : String) (record : Record) : IO Unit := do
  match Spool.lineOf record.text with
  | .error _ => return
  | .ok line =>
    let file ← IO.FS.Handle.mk path .append
    file.write ⟨line.toArray⟩

partial def sample (s : Settings) (collector : Collector SimulatedSampler) (publisher : Publisher) :
    IO Unit := do
  let now ← Std.Time.Timestamp.now
  let (_, collector) := collector.collect
  let (_, publisher, records) := publisher.publish (fun record kept => record :: kept)
    (Int64.ofInt now.toSecondsSinceUnixEpoch.val) collector.channels collector.lastFix []
  records.forM (keep s.spool.path)
  IO.sleep (UInt32.ofNat s.sampling.interval)
  sample s collector publisher

def begin (s : Settings) : IO Unit :=
  sample s (Collector.ofSettings { channels := s.channels.length } s.channels s.sampling)
    (Publisher.ofSettings s.sampling)

def report : Ending → IO Unit
  | .shown text => IO.print text
  | .misused e => IO.eprintln ("error: " ++ e.message ++ "\n\nFor more information, try '--help'.")
  | .refused r => IO.eprintln r.render
  | .withoutLog => IO.eprintln "initializing rolling file appender failed"
  | .ready station => begin station.settings

end TelemetryRelay.Program

def main (arguments : List String) : IO UInt32 := do
  let env ← TelemetryRelay.Program.environment
  let tree ← TelemetryRelay.Program.surveyAll arguments env
  let startup := TelemetryRelay.Startup.start arguments env tree
  TelemetryRelay.Program.makeDirectories startup.tree
  startup.events.forM fun e => IO.eprintln e.render
  TelemetryRelay.Program.report startup.ending
  return UInt32.ofNat startup.ending.code
