import TelemetryRelay.Failure

namespace TelemetryRelay

structure Report where
  context : String
  causes : List String
  deriving Repr, DecidableEq

def Failure.causes (f : Failure) : List String :=
  match f with
  | .record e => [f.message, e.message]
  | .delivery e => [f.message, e.message]
  | .sampler e => [f.message, e.message]
  | .settings fault => [f.message, fault.message ++ "\n"]
  | .file e => [f.message, e.message]

namespace Report

def withMargin (margin text : String) : String :=
  ("\n" ++ margin).intercalate ((text.toList.splitOn '\n').map String.ofList)

def numbered (number : Nat) : List String → List String
  | [] => []
  | cause :: rest =>
    let label := String.ofList (List.leftpad 5 ' ' (Nat.toDigits 10 number))
    (label ++ ": " ++ withMargin "       " cause) :: numbered (number + 1) rest

/-- The causes as they are listed: a single one has no number. -/
def listing : List String → List String
  | [cause] => ["    " ++ withMargin "    " cause]
  | causes => numbered 0 causes

/-- The wording of a report: what could not be done, and the causes from the nearest on. -/
def render (r : Report) : String :=
  let opening := "Error: " ++ r.context
  if r.causes.isEmpty then opening
  else opening ++ "\n\nCaused by:\n" ++ "\n".intercalate (listing r.causes)

end Report
end TelemetryRelay
