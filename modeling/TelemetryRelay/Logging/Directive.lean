import TelemetryRelay.Decimal.Reader
import TelemetryRelay.Logging.Event
import TelemetryRelay.Logging.Pattern
import TelemetryRelay.Text.Utf8

namespace TelemetryRelay

structure FieldFilter where
  name : String
  hasValue : Bool
  deriving Repr, DecidableEq

/-- One part of a filter: a target, in brackets a span with fields in braces, and after an equals
sign a level. There are no spans. `limit` is the rank of the last level that is logged, or 0 for
none. -/
structure LogDirective where
  target : Option String := none
  inSpan : Bool := false
  field : Option FieldFilter := none
  limit : Nat := LogLevel.trace.rank
  deriving Repr, DecidableEq

inductive FilterError where
  | malformed
  | insideCharacter
  deriving Repr, DecidableEq

namespace LogDirective

def limitOfNumber? (word : List Char) : Option Nat :=
  let digits := match word with
    | '+' :: rest => rest
    | rest => rest
  (Decimal.readNat? digits).filter (· ≤ LogLevel.trace.rank)

def limitOfName? (word : List Char) : Option Nat :=
  match String.ofList (word.map Char.toLower) with
  | "off" => some 0
  | "error" => some LogLevel.error.rank
  | "warn" => some LogLevel.warn.rank
  | "info" => some LogLevel.info.rank
  | "debug" => some LogLevel.debug.rank
  | "trace" => some LogLevel.trace.rank
  | _ => none

def limitOf? (word : List Char) : Option Nat :=
  (limitOfNumber? word).or (limitOfName? word)

/-- Where a reader stands in a directive. The numbers are those of the bytes before the part that is
being read. -/
inductive Place where
  | beginning
  | word
  | span (start : Nat)
  | field (start : Nat)
  | behindField
  | behindBracket
  | level (start : Nat)
  deriving Repr, DecidableEq

def begins (c : Char) : Bool :=
  Text.isWordChar c || c == '-' || c == ':' || c == '_'

def cut (text : List Char) (start stop : Nat) : Except FilterError (List Char) :=
  match (Utf8.dropBytes? start text).bind (Utf8.takeBytes? (stop - start)) with
  | some part => .ok part
  | none => .error .insideCharacter

def isNumber (text : List Char) : Bool :=
  let word := String.ofList ((Decimal.takeSign text).2.map Char.toLower)
  (Decimal.readNumeral? text).isSome || ["inf", "infinity", "nan"].contains word

def readField (text : List Char) : Except FilterError FieldFilter :=
  match text.splitOn '=' with
  | name :: value :: _ =>
    if isNumber value || Pattern.isWellFormed value then .ok ⟨String.ofList name, true⟩
    else .error .malformed
  | _ => if text.isEmpty then .error .malformed else .ok ⟨String.ofList text, false⟩

def readChar (text : List Char) (d : LogDirective) (position : Nat) (c : Char) :
    Place → Except FilterError (LogDirective × Place)
  | .beginning =>
    if c == '[' then .ok (d, .span (position + 1))
    else if begins c then .ok (d, .word) else .error .malformed
  | .word => do
    if c == '=' || c == '[' then
      let target := String.ofList (← cut text 0 position)
      let next := if c == '=' then Place.level (position + 1) else .span (position + 1)
      return ({ d with target := some target }, next)
    else return (d, .word)
  | .span start => do
    if c == ']' then
      let _ ← cut text start position
      return ({ d with inSpan := true }, .behindBracket)
    else if c == '\x7b' then
      let name ← cut text start position
      return ({ d with inSpan := !name.isEmpty }, .field (position + 1))
    else return (d, .span start)
  | .field start => do
    if c == '\x7d' then
      let field ← cut text start position
      if field.isEmpty then .error .malformed
      else return ({ d with field := some (← readField field) }, .behindField)
    else return (d, .field start)
  | .behindField => if c == ']' then .ok (d, .behindBracket) else .error .malformed
  | .behindBracket => if c == '=' then .ok (d, .level (position + 1)) else .error .malformed
  | .level start => .ok (d, .level start)

/-- What a directive is when its last character is read. A word alone is a limit for all targets if
it names one, and otherwise a target without a limit. -/
def finish (text : List Char) (d : LogDirective) : Place → Except FilterError LogDirective
  | .word =>
    match limitOf? text with
    | some limit => .ok { d with limit }
    | none => .ok { d with target := some (String.ofList text) }
  | .level start => do
    let word ← cut text start (Utf8.size text)
    if word.isEmpty then return d
    else
      match limitOf? word with
      | some limit => return { d with limit }
      | none => .error .malformed
  | .behindBracket => .ok d
  | _ => .error .malformed

def readOn (text : List Char) (d : LogDirective) (p : Place) (position : Nat) :
    List Char → Except FilterError LogDirective
  | [] => finish text d p
  | c :: rest => do
    let (d, p) ← readChar text d position c p
    readOn text d p (position + c.utf8Size) rest

/-- Reads a directive. Blanks around it do not count when it is gone through, but its parts are cut
from the text with the blanks, at the same numbers of bytes; so blanks in front shift the parts, and
a cut inside a character is no text at all. -/
def read (text : List Char) : Except FilterError LogDirective :=
  readOn text {} .beginning 0 (Text.trim text)

def isPlain (d : LogDirective) : Bool :=
  !d.inSpan && !d.field.any FieldFilter.hasValue

def concerns (d : LogDirective) (e : LogEvent) : Bool :=
  d.target.all (fun target => target.toList.isPrefixOf LogEvent.target.toList) &&
    d.field.all fun field => e.hasField field.name

/-- Whether a directive says more exactly than another which events it is about, or as exactly: by
the length of its target, then by having a field, then by the order of the fields' names. -/
def outranks (a b : LogDirective) : Bool :=
  let length := fun (d : LogDirective) => (d.target.map fun t => t.utf8ByteSize + 1).getD 0
  let name := fun (d : LogDirective) => (d.field.map FieldFilter.name).getD ""
  length b < length a ||
    (length a == length b &&
      (b.field.isNone || (a.field.isSome && decide (name b ≤ name a))))

end LogDirective
end TelemetryRelay
