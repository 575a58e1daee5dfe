import TelemetryRelay.Proofs.Record.Requests

namespace TelemetryRelay

/-- A builder that keeps a flag for each thing that has happened to its record, where `Builder` keeps
the phase that the record is in. -/
structure FlagBuilder where
  text : String := ""
  capacity : Nat := 1024
  hasMeasurement : Bool := false
  hasFields : Bool := false
  hasTimestamp : Bool := false
  finalized : Bool := false

namespace FlagBuilder
open Builder (Call Request)

abbrev Reply (α : Type) := Except RecordError α × FlagBuilder

def withCapacity (capacity : Nat) : Except RecordError FlagBuilder :=
  if Builder.maxSize < capacity then .error .invalidParameter
  else .ok { capacity := max capacity Builder.minCapacity }

def reset (f : FlagBuilder) : FlagBuilder :=
  { capacity := f.capacity }

/-- Writes at the end, and then raises a flag. -/
def append (text : String) (raise : FlagBuilder → FlagBuilder) (f : FlagBuilder) : Reply Unit :=
  match Builder.grown f.capacity (f.text.utf8ByteSize + text.utf8ByteSize) with
  | .error e => (.error e, f)
  | .ok capacity => (.ok (), raise { f with text := f.text ++ text, capacity })

def setMeasurement (f : FlagBuilder) (name : String) : Reply Unit :=
  if f.finalized then (.error .invalidState, f)
  else if !Name.isMeasurement name then (.error .invalidMeasurement, f)
  else f.reset.append name ({ · with hasMeasurement := true })

def addTag (f : FlagBuilder) (key value : String) : Reply Unit :=
  if f.finalized || !f.hasMeasurement || f.hasFields then (.error .invalidState, f)
  else if !Name.isKey key then (.error .invalidTagKey, f)
  else f.append ("," ++ key ++ "=" ++ value) id

def addField (f : FlagBuilder) (key : String) (value : FieldValue) : Reply Unit :=
  if f.finalized || !f.hasMeasurement || f.hasTimestamp then (.error .invalidState, f)
  else if !Name.isKey key then (.error .invalidFieldKey, f)
  else if !value.isWritable then (.error .invalidParameter, f)
  else
    f.append ((if f.hasFields then "," else " ") ++ key ++ "=" ++ value.render)
      ({ · with hasFields := true })

def setTimestamp (f : FlagBuilder) (time : Int64) : Reply Unit :=
  if f.finalized || !f.hasMeasurement || !f.hasFields || f.hasTimestamp then
    (.error .invalidState, f)
  else f.append (" " ++ Decimal.ofInt time.toInt) ({ · with hasTimestamp := true })

def validate (f : FlagBuilder) : Except RecordError Unit :=
  if !f.hasMeasurement then .error .invalidMeasurement
  else if !f.hasFields then .error .invalidState
  else .ok ()

def finalize (now : Int64) (f : FlagBuilder) : Reply Unit :=
  if f.finalized then (.ok (), f)
  else
    match f.validate with
    | .error e => (.error e, f)
    | .ok () =>
      match if f.hasTimestamp then (.ok (), f) else f.setTimestamp now with
      | (.error e, f) => (.error e, f)
      | (.ok (), f) => (.ok (), { f with finalized := true })

def perform (now : Int64) (f : FlagBuilder) : Call → Reply Unit
  | .reset => (.ok (), f.reset)
  | .setMeasurement name => f.setMeasurement name
  | .addTag key value => f.addTag key value
  | .addField key value => f.addField key value
  | .setTimestamp time => f.setTimestamp time
  | .setTimestampNow => f.setTimestamp now
  | .finalize => f.finalize now

def respond (now : Int64) (f : FlagBuilder) : Request → Reply (Option Record)
  | .call call => ((f.perform now call).1.map fun _ => none, (f.perform now call).2)
  | .copy => ((f.finalize now).1.map fun _ => some ⟨(f.finalize now).2.text⟩, (f.finalize now).2)

def answers (f : FlagBuilder) : List (Int64 × Request) → List (Reply (Option Record))
  | [] => []
  | (now, request) :: later => f.respond now request :: (f.respond now request).2.answers later

end FlagBuilder

namespace Builder

/-- The flags that are up in the phase of a builder. -/
def flags (b : Builder) : FlagBuilder where
  text := b.text
  capacity := b.capacity
  hasMeasurement := b.hasMeasurement
  hasFields := b.hasFields
  hasTimestamp := b.hasTimestamp
  finalized := b.isSealed

def Reply.flags {α : Type} (reply : Reply α) : FlagBuilder.Reply α :=
  (reply.1, reply.2.flags)

theorem withCapacity_flags (capacity : Nat) :
    FlagBuilder.withCapacity capacity = (withCapacity capacity).map flags := by
  unfold FlagBuilder.withCapacity withCapacity
  split
  next => rfl
  next => rfl

section
variable (b : Builder) (now : Int64)

theorem append_flags (text : String) (mark : Builder → Builder)
    (raise : FlagBuilder → FlagBuilder)
    (raised : ∀ b' : Builder, b'.phase = b.phase → raise b'.flags = (mark b').flags) :
    b.flags.append text raise = Reply.flags (b.orKeep ((b.append text).map mark)) := by
  have room : grown b.flags.capacity (b.flags.text.utf8ByteSize + text.utf8ByteSize) =
      grown b.capacity (b.size + text.utf8ByteSize) := rfl
  rw [FlagBuilder.append, room, append]
  cases grown b.capacity (b.size + text.utf8ByteSize) with
  | error e => rfl
  | ok capacity =>
    have up := raised { b with text := b.text ++ text, capacity } rfl
    exact congrArg (Prod.mk (Except.ok ())) up

theorem setMeasurement_flags (name : String) :
    b.flags.setMeasurement name = Reply.flags (b.setMeasurement name) := by
  have written := b.reset.append_flags name ({ · with phase := .named })
    ({ · with hasMeasurement := true }) (by rintro ⟨_, _, _⟩ ⟨⟩; rfl)
  have flag : b.flags.finalized = b.isSealed := rfl
  rw [FlagBuilder.setMeasurement, flag, setMeasurement]
  cases b.isSealed with
  | true => rfl
  | false =>
    cases Name.isMeasurement name with
    | false => rfl
    | true => exact written

theorem addTag_flags (key value : String) :
    b.flags.addTag key value = Reply.flags (b.addTag key value) := by
  have written := b.append_flags ("," ++ key ++ "=" ++ value) id id fun _ _ => rfl
  have same : (b.append ("," ++ key ++ "=" ++ value)).map id =
      b.append ("," ++ key ++ "=" ++ value) := by
    cases b.append ("," ++ key ++ "=" ++ value) <;> rfl
  rw [same] at written
  have flag : (b.flags.finalized || !b.flags.hasMeasurement || b.flags.hasFields) =
      (b.phase != .named) := by
    obtain ⟨_, _, phase⟩ := b
    cases phase <;> rfl
  rw [FlagBuilder.addTag, flag, addTag]
  cases b.phase != .named with
  | true => rfl
  | false =>
    cases Name.isKey key with
    | false => rfl
    | true => exact written

theorem addField_flags (key : String) (value : FieldValue) :
    b.flags.addField key value = Reply.flags (b.addField key value) := by
  have flag : (b.flags.finalized || !b.flags.hasMeasurement || b.flags.hasTimestamp) =
      (b.phase != .named && b.phase != .filled) := by
    obtain ⟨_, _, phase⟩ := b
    cases phase <;> rfl
  rw [FlagBuilder.addField, flag, addField]
  cases late : b.phase != .named && b.phase != .filled with
  | true => rfl
  | false =>
    have timely : b.phase = .named ∨ b.phase = .filled := by
      cases phase : b.phase <;> simp [phase] at late ⊢
    have written := b.append_flags
      ((if b.hasFields then "," else " ") ++ key ++ "=" ++ value.render)
      ({ · with phase := .filled }) ({ · with hasFields := true }) (by
        rintro ⟨_, _, phase⟩ same
        obtain rfl | rfl : phase = .named ∨ phase = .filled := by rwa [← same] at timely
        · rfl
        · rfl)
    cases Name.isKey key with
    | false => rfl
    | true =>
      cases value.isWritable with
      | false => rfl
      | true => exact written

theorem setTimestamp_flags (time : Int64) :
    b.flags.setTimestamp time = Reply.flags (b.setTimestamp time) := by
  have flag : (b.flags.finalized || !b.flags.hasMeasurement || !b.flags.hasFields ||
      b.flags.hasTimestamp) = (b.phase != .filled) := by
    obtain ⟨_, _, phase⟩ := b
    cases phase <;> rfl
  rw [FlagBuilder.setTimestamp, flag, setTimestamp]
  cases late : b.phase != .filled with
  | true => rfl
  | false =>
    have timely : b.phase = .filled := by simpa using late
    exact b.append_flags (" " ++ Decimal.ofInt time.toInt) ({ · with phase := .stamped })
      ({ · with hasTimestamp := true }) (by
        rintro ⟨_, _, _⟩ same
        cases same.trans timely
        rfl)

/-- A record with a time has a measurement and a field, so that no other flag is missing. -/
theorem flags_sealed {b : Builder} (timed : b.hasTimestamp = true) :
    { b.flags with finalized := true } = { b with phase := .sealed : Builder }.flags := by
  obtain ⟨_, _, phase⟩ := b
  cases phase with
  | stamped => rfl
  | sealed => rfl
  | _ => contradiction

theorem finalize_flags : b.flags.finalize now = Reply.flags (b.finalize now) := by
  have done : b.flags.finalized = b.isSealed := rfl
  have valid : b.flags.validate = b.validate := rfl
  have dated : b.flags.hasTimestamp = b.hasTimestamp := rfl
  rw [FlagBuilder.finalize, done, valid, dated, setTimestamp_flags, finalize]
  cases b.isSealed with
  | true => rfl
  | false =>
    cases b.validate with
    | error e => rfl
    | ok =>
      cases timed : b.hasTimestamp with
      | true => exact congrArg (Prod.mk (Except.ok ())) (flags_sealed timed)
      | false =>
        cases stamped : b.setTimestamp now with
        | mk answer b' =>
          cases answer with
          | error e => rfl
          | ok =>
            have timed' : b'.hasTimestamp = true := by
              rw [hasTimestamp, (setTimestamp_eq_ok stamped).2.2]
              rfl
            exact congrArg (Prod.mk (Except.ok ())) (flags_sealed timed')

/-- Every call answers the same whether the builder keeps its phase or its flags, and the flags that
are up afterwards are those of the phase. -/
theorem perform_flags (call : Call) :
    b.flags.perform now call = Reply.flags (b.perform now call) := by
  cases call with
  | reset => rfl
  | setMeasurement name => exact b.setMeasurement_flags name
  | addTag key value => exact b.addTag_flags key value
  | addField key value => exact b.addField_flags key value
  | setTimestamp time => exact b.setTimestamp_flags time
  | setTimestampNow => exact b.setTimestamp_flags now
  | finalize => exact b.finalize_flags now

theorem respond_flags (request : Request) :
    b.flags.respond now request = Reply.flags (b.respond now request) := by
  cases request with
  | call call =>
    rw [FlagBuilder.respond, perform_flags]
    rfl
  | copy =>
    rw [FlagBuilder.respond, finalize_flags, respond, copy_eq]
    obtain ⟨answer, after⟩ := b.finalize now
    cases answer <;> rfl

/-- However a builder is used, nobody can tell whether it keeps its phase or its flags. -/
theorem answers_flags (requests : List (Int64 × Request)) :
    b.flags.answers requests = (b.answers requests).map Reply.flags := by
  induction requests generalizing b with
  | nil => rfl
  | cons entry later ih =>
    obtain ⟨now, request⟩ := entry
    rw [FlagBuilder.answers, respond_flags, answers, List.map_cons]
    exact congrArg (List.cons _) (ih (b.respond now request).2)

end
end Builder
end TelemetryRelay
