import TelemetryRelay.CommandLine.Visible

namespace TelemetryRelay

inductive Invocation where
  | help
  | version
  | run (settings : String)
  deriving Repr, DecidableEq

inductive UsageError where
  | unexpectedArgument (argument : String)
  | unexpectedValue (option value : String)
  | missingValue
  | repeatedOption
  deriving Repr, DecidableEq

/-- The wording of a usage error. Arguments are shown without control sequences. -/
def UsageError.message : UsageError → String
  | unexpectedArgument argument =>
    "unexpected argument '" ++ Visible.ofText argument ++ "' found"
  | unexpectedValue option value =>
    "unexpected value '" ++ Visible.ofText value ++ "' for '" ++ option ++
      "' found; no more were expected"
  | missingValue => "a value is required for '--config <CONFIG>' but none was supplied"
  | repeatedOption => "the argument '--config <CONFIG>' cannot be used multiple times"

namespace Arguments

def defaultSettings : String := "config/default.toml"

def versionText : String := "sensor-uplink 0.1.0\n"

def helpText : String :=
  "Sample ADC channels and GPS, and ship them to InfluxDB with an offline spool\n\n" ++
  "Usage: sensor-uplink [OPTIONS]\n\n" ++
  "Options:\n" ++
  "  -c, --config <CONFIG>  Path to the TOML configuration file [default: " ++ defaultSettings ++
    "]\n" ++
  "  -h, --help             Print help\n" ++
  "  -V, --version          Print version\n"

/-- An option that stands in the arguments and whose value is not settled yet. -/
inductive Pending where
  | none
  | awaited
  | value (text : String)
  deriving Repr, DecidableEq

structure State where
  settings : Option String := none
  pending : Pending := .none
  deriving Repr, DecidableEq

def State.give (value : String) (s : State) : Except UsageError State :=
  if s.settings.isSome then .error .repeatedOption
  else if value.isEmpty then .error .missingValue
  else .ok { settings := some value }

def State.settle (s : State) : Except UsageError State :=
  match s.pending with
  | .none => .ok s
  | .awaited => .error .missingValue
  | .value text => s.give text

inductive Outcome where
  | goOn (s : State)
  | stop (result : Except UsageError Invocation)
  deriving Repr

def State.settleThen (s : State) (rest : State → Outcome) : Outcome :=
  match s.settle with
  | .ok s => rest s
  | .error e => .stop (.error e)

def State.show (s : State) (what : Invocation) : Outcome :=
  s.settleThen fun _ => .stop (.ok what)

def State.option (s : State) (value : Option String) : Outcome :=
  s.settleThen fun s =>
    match value with
    | none => .goOn { s with pending := .awaited }
    | some text =>
      match s.give text with
      | .ok s => .goOn s
      | .error e => .stop (.error e)

def readLong (s : State) (cs : List Char) : Outcome :=
  let (name, attached) := cs.span (· != '=')
  let value := if attached.isEmpty then none else some (String.ofList attached.tail)
  let option := "--" ++ String.ofList name
  let flag := fun what =>
    match value with
    | none => s.show what
    | some text => .stop (.error (.unexpectedValue option text))
  match String.ofList name with
  | "config" => s.option value
  | "help" => flag .help
  | "version" => flag .version
  | _ => .stop (.error (.unexpectedArgument option))

/-- An argument that begins with one hyphen, which is left out. The first letter settles it: all
that follows the letter of an option is its value. -/
def readShort (s : State) : List Char → Outcome
  | [] => .goOn s
  | 'h' :: _ => s.show .help
  | 'V' :: _ => s.show .version
  | 'c' :: [] => s.option none
  | 'c' :: '=' :: value => s.option (some (String.ofList value))
  | 'c' :: value => s.option (some (String.ofList value))
  | c :: _ => .stop (.error (.unexpectedArgument (String.ofList ['-', c])))

def readPlain (s : State) (argument : String) : Outcome :=
  match s.pending with
  | .awaited => .goOn { s with pending := .value argument }
  | _ => .stop (.error (.unexpectedArgument argument))

def readOne (s : State) (argument : String) : Outcome :=
  match argument.toList with
  | '-' :: '-' :: cs => readLong s cs
  | '-' :: c :: cs => readShort s (c :: cs)
  | _ => readPlain s argument

def State.finish (s : State) : Except UsageError Invocation :=
  s.settle.map fun s => .run (s.settings.getD defaultSettings)

/-- Reads arguments; after two hyphens alone no argument makes sense. -/
def readFrom (s : State) : List String → Except UsageError Invocation
  | [] => s.finish
  | argument :: rest =>
    if argument = "--" then
      match rest with
      | [] => s.finish
      | extra :: _ => .error (.unexpectedArgument extra)
    else
      match readOne s argument with
      | .goOn s => readFrom s rest
      | .stop result => result

/-- Reads the arguments of the program from left to right. Help or the version is shown as soon as
it is asked for, and the first argument that is wrong ends the reading. -/
def read (arguments : List String) : Except UsageError Invocation :=
  readFrom {} arguments

end Arguments
end TelemetryRelay
