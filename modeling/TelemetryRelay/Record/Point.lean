import TelemetryRelay.Decimal.Reader
import TelemetryRelay.Record.Error
import TelemetryRelay.Record.Field
import TelemetryRelay.Record.Name

namespace TelemetryRelay

structure Point where
  measurement : String
  tags : List (String × String)
  fields : List (String × FieldValue)
  timestamp : Option Int64

namespace Point

/-- Reads `key=value`; the value is kept as it stands. -/
def readTag (cs : List Char) : Except RecordError (String × String) :=
  match Text.splitFirst '=' cs with
  | none => .error .invalidParameter
  | some (key, value) =>
    if Name.isKey (String.ofList key) then .ok (String.ofList key, String.ofList value)
    else .error .invalidTagKey

def readHead (cs : List Char) : Except RecordError (String × List (String × String)) :=
  match cs.splitOn ',' with
  | [] => .error .invalidMeasurement
  | name :: tags =>
    if Name.isMeasurement (String.ofList name) then
      (tags.mapM readTag).map fun tags => (String.ofList name, tags)
    else .error .invalidMeasurement

def readBare (cs : List Char) : Except RecordError FieldValue :=
  if cs = "true".toList then .ok (.boolean true)
  else if cs = "false".toList then .ok (.boolean false)
  else if cs.getLast? = some 'i' then
    match Decimal.readInt64? cs.dropLast with
    | some n => .ok (.integer n)
    | none => .error .invalidParameter
  else
    match Decimal.readFinite? cs with
    | some v => .ok (.double v)
    | none => .error .invalidParameter

def endsBare (c : Char) : Bool :=
  c == ',' || c == ' '

def readValue (cs : List Char) : Except RecordError (FieldValue × List Char) :=
  match cs with
  | '"' :: rest =>
    match Quoted.splitAtQuote rest with
    | none => .error .invalidParameter
    | some (inside, rest) => .ok (.text (String.ofList (Quoted.unescape inside)), rest)
  | _ =>
    match cs.span (fun c => !endsBare c) with
    | (bare, rest) => (readBare bare).map fun v => (v, rest)

def readField (cs : List Char) : Except RecordError ((String × FieldValue) × List Char) :=
  match Text.splitFirst '=' cs with
  | none => .error .invalidParameter
  | some (key, rest) =>
    if Name.isKey (String.ofList key) then
      (readValue rest).map fun (v, rest) => ((String.ofList key, v), rest)
    else .error .invalidFieldKey

/-- Reads fields up to the end of the text or to a space, and returns what follows that space.
`fuel` bounds the number of fields, `done` holds those before, the last one first. -/
def readFieldsOnto (done : List (String × FieldValue)) :
    Nat → List Char → Except RecordError (List (String × FieldValue) × Option (List Char))
  | 0, _ => .error .invalidParameter
  | fuel + 1, cs =>
    match readField cs with
    | .error e => .error e
    | .ok (field, []) => .ok ((field :: done).reverse, none)
    | .ok (field, c :: rest) =>
      if c == ',' then readFieldsOnto (field :: done) fuel rest
      else if c == ' ' then .ok ((field :: done).reverse, some rest)
      else .error .invalidParameter

def readFields (cs : List Char) :
    Except RecordError (List (String × FieldValue) × Option (List Char)) :=
  readFieldsOnto [] (cs.length + 1) cs

def readTimestamp (cs : List Char) : Except RecordError Int64 :=
  match Decimal.readInt64? (Text.trim cs) with
  | some t => .ok t
  | none => .error .invalidParameter

/-- Reads a line: a head, a space, a set of fields, and perhaps a space and a time.

    measurement[,key=value]* key=value[,key=value]* [time]

A quoted value ends at its closing quote, any other at the next comma or space. Of several faults
the first one from the left is reported. -/
def read (line : String) : Except RecordError Point :=
  match Text.splitFirst ' ' line.toList with
  | none => .error .invalidState
  | some (head, rest) => do
    let (measurement, tags) ← readHead head
    let (fields, time) ← readFields rest
    match time with
    | none => return { measurement, tags, fields, timestamp := none }
    | some cs => return { measurement, tags, fields, timestamp := some (← readTimestamp cs) }

end Point
end TelemetryRelay
