import TelemetryRelay.Proofs.Record.Room

namespace TelemetryRelay.Builder

/-- The phase that an accepted call leads to. -/
def Call.next : Call → Phase
  | .reset => .blank
  | .setMeasurement _ | .addTag _ _ => .named
  | .addField _ _ => .filled
  | .setTimestamp _ | .setTimestampNow => .stamped
  | .finalize => .sealed

/-- What the checks of the phase, the name and the value have against a call. -/
def objection (b : Builder) : Call → Option RecordError
  | .reset => none
  | .setMeasurement name =>
    if b.isSealed then some .invalidState
    else if Name.isMeasurement name then none else some .invalidMeasurement
  | .addTag key _ =>
    if !b.hasMeasurement || b.hasFields then some .invalidState
    else if Name.isKey key then none else some .invalidTagKey
  | .addField key value =>
    if !b.hasMeasurement || b.hasTimestamp then some .invalidState
    else if !Name.isKey key then some .invalidFieldKey
    else if value.isWritable then none else some .invalidParameter
  | .setTimestamp _ | .setTimestampNow =>
    if !b.hasFields || b.hasTimestamp then some .invalidState else none
  | .finalize =>
    if !b.hasMeasurement then some .invalidMeasurement
    else if b.hasFields then none else some .invalidState

/-- The text that a call produces while the clock shows `now`. -/
def produced (now : Int64) (b : Builder) : Call → String
  | .reset => ""
  | .setMeasurement name => name
  | .addTag key value => b.text ++ ("," ++ key ++ "=" ++ value)
  | .addField key value =>
    b.text ++ ((if b.hasFields then "," else " ") ++ key ++ "=" ++ value.render)
  | .setTimestamp time => b.text ++ (" " ++ Decimal.ofInt time.toInt)
  | .setTimestampNow => b.text ++ (" " ++ Decimal.ofInt now.toInt)
  | .finalize => if b.hasTimestamp then b.text else b.text ++ (" " ++ Decimal.ofInt now.toInt)

/-- The reply to a call that has passed its checks and produces a text: the builder holds it, or
there is no room. -/
def written (b : Builder) (text : String) (phase : Phase) (kept : Builder) : Reply Unit :=
  if text.utf8ByteSize ≤ maxSize then
    (.ok (), ⟨text, roomFor b.capacity text.utf8ByteSize, phase⟩)
  else (.error .bufferFull, kept)

section
variable {b : Builder}

theorem roomFor_of_le {capacity required : Nat} (fits : required ≤ capacity) :
    roomFor capacity required = capacity :=
  if_pos fits

theorem Roomy.append_eq (room : b.Roomy) (text : String) :
    b.append text =
      if (b.text ++ text).utf8ByteSize ≤ maxSize then
        .ok ⟨b.text ++ text, roomFor b.capacity (b.text ++ text).utf8ByteSize, b.phase⟩
      else .error .bufferFull := by
  have size : (b.text ++ text).utf8ByteSize = b.size + text.utf8ByteSize :=
    String.utf8ByteSize_append ..
  rw [size]
  split
  next fits => rw [Builder.append, grown_fits fits, Except.map]
  next full => rw [room.append_full (Nat.lt_of_not_le full)]

theorem Roomy.write_eq (room : b.Roomy) (text : String) (phase : Phase) (kept : Builder) :
    kept.orKeep ((b.append text).map ({ · with phase })) =
      b.written (b.text ++ text) phase kept := by
  rw [room.append_eq, written]
  split <;> rfl

theorem Roomy.keep_eq (room : b.Roomy) (text : String) :
    b.orKeep (b.append text) = b.written (b.text ++ text) b.phase b := by
  rw [room.append_eq, written]
  split <;> rfl

theorem Roomy.setTimestamp_eq (room : b.Roomy) (time : Int64) :
    b.setTimestamp time =
      if !b.hasFields || b.hasTimestamp then (.error .invalidState, b)
      else b.written (b.text ++ (" " ++ Decimal.ofInt time.toInt)) .stamped b := by
  have checked : (b.phase != .filled) = (!b.hasFields || b.hasTimestamp) := by
    rw [hasFields, hasTimestamp]
    cases b.phase <;> rfl
  rw [Builder.setTimestamp, checked, room.write_eq]

/-- A text that is there already fits. -/
theorem Roomy.written_text (room : b.Roomy) (phase : Phase) (kept : Builder) :
    b.written b.text phase kept = (.ok (), { b with phase }) := by
  have fits : b.text.utf8ByteSize ≤ maxSize := room.size_le
  have same : roomFor b.capacity b.text.utf8ByteSize = b.capacity := roomFor_of_le room.fits
  rw [written, if_pos fits, same]

theorem Roomy.finalize_eq (room : b.Roomy) (filled : b.phase = .filled) (now : Int64) :
    b.finalize now =
      b.written (b.text ++ (" " ++ Decimal.ofInt now.toInt)) .sealed b := by
  have unsealed : b.isSealed = false := by simp [isSealed, filled]
  have valid : b.validate = .ok () := by simp [validate, hasMeasurement, hasFields, filled]
  have untimed : b.hasTimestamp = false := by simp [hasTimestamp, filled]
  have stamped := room.setTimestamp_eq now
  rw [if_neg (by simp [hasFields, hasTimestamp, filled])] at stamped
  rw [Builder.finalize, if_neg (by simp [unsealed]), valid, if_neg (by simp [untimed]), stamped,
    written, written]
  by_cases fits : (b.text ++ (" " ++ Decimal.ofInt now.toInt)).utf8ByteSize ≤ maxSize
  · rw [if_pos fits, if_pos fits]
  · rw [if_neg fits, if_neg fits]

/-- What a call comes to. If the checks have nothing against it, it is accepted exactly if the text
that it produces is not larger than a record may be. -/
theorem Roomy.perform_eq (room : b.Roomy) (now : Int64) (call : Call) :
    b.perform now call =
      match b.objection call with
      | some e => (.error e, b)
      | none =>
        b.written (b.produced now call) call.next
          (if call.drops .bufferFull then b.reset else b) := by
  cases call with
  | reset => exact (room.reset.written_text .blank b).symm
  | setMeasurement name =>
    rw [Builder.perform, setMeasurement, objection]
    split
    next => rfl
    next =>
      cases valid : Name.isMeasurement name with
      | false => rfl
      | true =>
        have empty : b.reset.text ++ name = name := String.empty_append ..
        have answer := room.reset.write_eq name .named b.reset
        rw [empty] at answer
        exact answer
  | addTag key value =>
    have checked : (b.phase != .named) = (!b.hasMeasurement || b.hasFields) := by
      rw [hasMeasurement, hasFields]
      cases b.phase <;> rfl
    rw [Builder.perform, addTag, objection, checked]
    split
    next => rfl
    next begun =>
      cases valid : Name.isKey key with
      | false => rfl
      | true =>
        have named : b.phase = .named := by simpa [← checked] using begun
        have reply := room.keep_eq ("," ++ key ++ "=" ++ value)
        rw [named] at reply
        exact reply
  | addField key value =>
    have checked : (b.phase != .named && b.phase != .filled) =
        (!b.hasMeasurement || b.hasTimestamp) := by
      rw [hasMeasurement, hasTimestamp]
      cases b.phase <;> rfl
    rw [Builder.perform, addField, objection, checked]
    split
    next => rfl
    next =>
      cases valid : Name.isKey key with
      | false => rfl
      | true =>
        cases writable : value.isWritable with
        | false => rfl
        | true => exact room.write_eq ..
  | setTimestamp time =>
    rw [Builder.perform, room.setTimestamp_eq, objection]
    split <;> rfl
  | setTimestampNow =>
    rw [Builder.perform, room.setTimestamp_eq, objection]
    split <;> rfl
  | finalize =>
    obtain ⟨text, capacity, phase⟩ := b
    cases phase with
    | blank => rfl
    | named => rfl
    | filled => exact room.finalize_eq rfl now
    | stamped => exact (room.written_text .sealed _).symm
    | sealed => exact (room.written_text .sealed _).symm

/-- The answer to a call that has passed its checks. -/
theorem Roomy.perform_fst (room : b.Roomy) {call : Call} (passed : b.objection call = none)
    (now : Int64) :
    (b.perform now call).1 =
      if (b.produced now call).utf8ByteSize ≤ maxSize then .ok () else .error .bufferFull := by
  rw [room.perform_eq, passed]
  dsimp only
  rw [written]
  split <;> rfl

theorem Roomy.setMeasurement_answer {name : String} (room : b.Roomy) (open_ : b.isSealed = false)
    (valid : Name.isMeasurement name = true) :
    (b.setMeasurement name).1 =
      if name.utf8ByteSize ≤ maxSize then .ok () else .error .bufferFull :=
  room.perform_fst (by simp [objection, open_, valid] : b.objection (.setMeasurement name) = none) 0

/-- A builder that holds a text of an admitted size has the room that it should have. -/
theorem Roomy.holds (room : b.Roomy) {text : String} (fits : text.utf8ByteSize ≤ maxSize)
    (phase : Phase) : (⟨text, roomFor b.capacity text.utf8ByteSize, phase⟩ : Builder).Roomy := by
  obtain ⟨more, enough, le⟩ := roomFor_bounds room.pos room.greatest fits
  exact ⟨Nat.le_trans room.least more, le, enough⟩

theorem Roomy.perform (room : b.Roomy) (now : Int64) (call : Call) :
    (b.perform now call).2.Roomy := by
  rw [room.perform_eq]
  split
  next => exact room
  next =>
    unfold written
    split
    next fits => exact room.holds fits _
    next =>
      split
      next => exact room.reset
      next => exact room

end
end TelemetryRelay.Builder
