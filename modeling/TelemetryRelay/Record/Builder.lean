import TelemetryRelay.Record.Basic

namespace TelemetryRelay

/-- How far a record has been built. A `named` one has a measurement and perhaps tags, a `filled`
one at least one field, a `stamped` one a time, and a `sealed` one takes no more parts. -/
inductive Builder.Phase where
  | blank
  | named
  | filled
  | stamped
  | sealed
  deriving Repr, DecidableEq

structure Builder where
  text : String := ""
  capacity : Nat := 1024
  phase : Builder.Phase := .blank
  deriving Repr, DecidableEq

namespace Builder

def minCapacity : Nat := 64

def maxSize : Nat := 1024 * 1024

/-- An empty builder with room for `capacity` bytes, or for the least number if that is more. -/
def withCapacity (capacity : Nat) : Except RecordError Builder :=
  if maxSize < capacity then .error .invalidParameter
  else .ok { capacity := max capacity minCapacity }

def size (b : Builder) : Nat :=
  b.text.utf8ByteSize

def isEmpty (b : Builder) : Bool :=
  b.size == 0

def isSealed (b : Builder) : Bool :=
  b.phase == .sealed

def hasMeasurement (b : Builder) : Bool :=
  b.phase != .blank

def hasFields (b : Builder) : Bool :=
  b.phase == .filled || b.phase == .stamped || b.phase == .sealed

def hasTimestamp (b : Builder) : Bool :=
  b.phase == .stamped || b.phase == .sealed

def reset (b : Builder) : Builder :=
  { b with text := "", phase := .blank }

def doubled (capacity required : Nat) : Nat :=
  if 0 < capacity ∧ capacity < required then doubled (capacity * 2) required else capacity
termination_by required - capacity
decreasing_by omega

/-- The capacity after making room for `required` bytes: the old one if they fit, and otherwise
doubled as often as needed, but never above the greatest size. -/
def grown (capacity required : Nat) : Except RecordError Nat :=
  if required ≤ capacity then .ok capacity
  else
    let wanted := doubled (capacity * 2) required
    if wanted ≤ maxSize then .ok wanted
    else if required ≤ maxSize then .ok maxSize
    else .error .bufferFull

/-- Writes at the end. The memory for it is taken as granted; `appendWithin` is refused some. -/
def append (b : Builder) (text : String) : Except RecordError Builder :=
  (grown b.capacity (b.size + text.utf8ByteSize)).map fun capacity =>
    { b with text := b.text ++ text, capacity }

abbrev Reply (α : Type) := Except RecordError α × Builder

def orKeep (b : Builder) : Except RecordError Builder → Reply Unit
  | .ok b' => (.ok (), b')
  | .error e => (.error e, b)

/-- Begins a record, dropping what was written before. -/
def setMeasurement (b : Builder) (name : String) : Reply Unit :=
  if b.isSealed then (.error .invalidState, b)
  else if !Name.isMeasurement name then (.error .invalidMeasurement, b)
  else b.reset.orKeep ((b.reset.append name).map ({ · with phase := .named }))

/-- Writes a tag; its value is written as it stands. -/
def addTag (b : Builder) (key value : String) : Reply Unit :=
  if b.phase != .named then (.error .invalidState, b)
  else if !Name.isKey key then (.error .invalidTagKey, b)
  else b.orKeep (b.append ("," ++ key ++ "=" ++ value))

def addField (b : Builder) (key : String) (value : FieldValue) : Reply Unit :=
  if b.phase != .named && b.phase != .filled then (.error .invalidState, b)
  else if !Name.isKey key then (.error .invalidFieldKey, b)
  else if !value.isWritable then (.error .invalidParameter, b)
  else
    let separator := if b.hasFields then "," else " "
    let written := b.append (separator ++ key ++ "=" ++ value.render)
    b.orKeep (written.map ({ · with phase := .filled }))

def setTimestamp (b : Builder) (time : Int64) : Reply Unit :=
  if b.phase != .filled then (.error .invalidState, b)
  else b.orKeep ((b.append (" " ++ Decimal.ofInt time.toInt)).map ({ · with phase := .stamped }))

def validate (b : Builder) : Except RecordError Unit :=
  if !b.hasMeasurement then .error .invalidMeasurement
  else if !b.hasFields then .error .invalidState
  else .ok ()

def finalize (now : Int64) (b : Builder) : Reply Unit :=
  if b.isSealed then (.ok (), b)
  else
    match b.validate with
    | .error e => (.error e, b)
    | .ok () =>
      match if b.hasTimestamp then (.ok (), b) else b.setTimestamp now with
      | (.error e, b) => (.error e, b)
      | (.ok (), b) => (.ok (), { b with phase := .sealed })

/-- Completes the record and takes it; the builder stays complete. -/
def copy (now : Int64) (b : Builder) : Reply Record :=
  match b.finalize now with
  | (.error e, b) => (.error e, b)
  | (.ok (), b) => (.ok ⟨b.text⟩, b)

def build (now : Int64) (b : Builder) : Except RecordError Record :=
  (b.copy now).1

inductive Call where
  | reset
  | setMeasurement (name : String)
  | addTag (key value : String)
  | addField (key : String) (value : FieldValue)
  | setTimestamp (time : Int64)
  | setTimestampNow
  | finalize

def perform (now : Int64) (b : Builder) : Call → Reply Unit
  | .reset => (.ok (), b.reset)
  | .setMeasurement name => b.setMeasurement name
  | .addTag key value => b.addTag key value
  | .addField key value => b.addField key value
  | .setTimestamp time => b.setTimestamp time
  | .setTimestampNow => b.setTimestamp now
  | .finalize => b.finalize now

end Builder
end TelemetryRelay
