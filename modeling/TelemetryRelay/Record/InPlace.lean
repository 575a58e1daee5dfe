import TelemetryRelay.Record.Point

namespace TelemetryRelay.Point

/-- What a step that takes slices comes to; `none` if a slice cannot be taken. -/
abbrev Sliced (α : Type) := Option (Except RecordError α)

def valueEnd (cs : List Char) (start : Nat) : Sliced Nat :=
  let bytes := Utf8.encode (String.ofList cs)
  if bytes[start]? = some 0x22 then
    match Quoted.closingQuote (start + 1) (bytes.drop (start + 1)) with
    | none => some (.error .invalidParameter)
    | some close => some (.ok (close + 1))
  else
    (Utf8.dropBytes? start cs).map fun rest =>
      .ok (((Utf8.find? endsBare rest).map (start + ·)).getD bytes.length)

def readCut (cs : List Char) : Sliced FieldValue :=
  if 2 ≤ Utf8.size cs ∧ cs.head? = some '"' ∧ cs.getLast? = some '"' then
    (Utf8.slice? cs 1 (Utf8.size cs - 1)).map fun inside =>
      .ok (.text (String.ofList (Quoted.unescape inside)))
  else some (readBare cs)

/-- Reads the value that begins at `start`, and gives the offset after it. The closing quote is
looked for among the bytes. -/
def valueAt (cs : List Char) (start : Nat) : Sliced (FieldValue × Nat) :=
  match valueEnd cs start with
  | none => none
  | some (.error e) => some (.error e)
  | some (.ok stop) =>
    ((Utf8.slice? cs start stop).bind readCut).map fun value => value.map fun v => (v, stop)

def fieldAt (cs : List Char) (start : Nat) : Sliced ((String × FieldValue) × Nat) :=
  (Utf8.dropBytes? start cs).bind fun rest =>
    match Utf8.find? (· == '=') rest with
    | none => some (.error .invalidParameter)
    | some size =>
      (Utf8.slice? cs start (start + size)).bind fun key =>
        if Name.isKey (String.ofList key) then
          (valueAt cs (start + size + 1)).map fun value =>
            value.map fun (v, stop) => ((String.ofList key, v), stop)
        else some (.error .invalidFieldKey)

/-- Reads fields from `start` on, up to the end of the text or to a space, and gives what follows
that space. `fuel` bounds the number of fields, `done` holds those before, the last one first. -/
def fieldsFrom (cs : List Char) (done : List (String × FieldValue)) :
    Nat → Nat → Sliced (List (String × FieldValue) × Option (List Char))
  | 0, _ => some (.error .invalidParameter)
  | fuel + 1, start =>
    match fieldAt cs start with
    | none => none
    | some (.error e) => some (.error e)
    | some (.ok (field, stop)) =>
      match (Utf8.encode (String.ofList cs))[stop]? with
      | none => some (.ok ((field :: done).reverse, none))
      | some b =>
        if b == 0x2C then fieldsFrom cs (field :: done) fuel (stop + 1)
        else if b == 0x20 then
          (Utf8.dropBytes? (stop + 1) cs).map fun rest => .ok ((field :: done).reverse, some rest)
        else some (.error .invalidParameter)

end TelemetryRelay.Point
