import TelemetryRelay.Logging.Directive

namespace TelemetryRelay

structure LogFilter where
  directives : List LogDirective := []
  deriving Repr, DecidableEq

namespace LogFilter

/-- Reads a filter; what is empty between commas says nothing. -/
def read (text : String) : Except FilterError LogFilter :=
  (((text.toList.splitOn ',').filter fun piece => !piece.isEmpty).mapM LogDirective.read).map
    LogFilter.mk

def informative : LogFilter :=
  ⟨[{ limit := LogLevel.info.rank }]⟩

def readOr (other : Except FilterError LogFilter) (text : String) : Except FilterError LogFilter :=
  match read text with
  | .error .malformed => other
  | answer => answer

def choose (ofEnvironment : Option String) (setting : String) : Except FilterError LogFilter :=
  let ofSettings := readOr (.ok informative) setting
  match ofEnvironment with
  | some text => readOr ofSettings text
  | none => ofSettings

/-- The more exact of two directives; of equally exact ones it is the later one. -/
def better (best : Option LogDirective) (d : LogDirective) : Option LogDirective :=
  if best.all fun b => d.outranks b then some d else best

/-- The rank of the last level that is logged for an event. A filter that says nothing lets errors
through. -/
def limitFor (f : LogFilter) (e : LogEvent) : Nat :=
  if f.directives.isEmpty then LogLevel.error.rank
  else
    let concerned := f.directives.filter fun d => d.isPlain && d.concerns e
    ((concerned.foldl better none).map LogDirective.limit).getD 0

def admits (f : LogFilter) (e : LogEvent) : Bool :=
  e.level.rank ≤ f.limitFor e

end LogFilter
end TelemetryRelay
