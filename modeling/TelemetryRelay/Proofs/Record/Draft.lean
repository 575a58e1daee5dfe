import TelemetryRelay.Proofs.Outcomes
import TelemetryRelay.Proofs.Record.Grammar
import TelemetryRelay.Record.Builder

namespace TelemetryRelay

namespace Point

def fieldText (field : String × FieldValue) : List Char :=
  field.1.toList ++ '=' :: field.2.render.toList

/-- The text of fields, the first one after a space and each other one after a comma. -/
def fieldsText : List (String × FieldValue) → List Char
  | [] => []
  | field :: fields => ' ' :: (fieldText field ++ fields.flatMap fun f => ',' :: fieldText f)

def timeText : Option Int64 → List Char
  | none => []
  | some time => ' ' :: (Decimal.ofInt time.toInt).toList

/-- How a builder writes a point; fields and a time that are missing are left out. -/
def rendered (p : Point) : List Char :=
  p.measurement.toList ++ p.tags.flatMap (fun tag => ',' :: tagText tag) ++
    (fieldsText p.fields ++ timeText p.timestamp)

theorem fieldsText_append (fields : List (String × FieldValue)) (field : String × FieldValue) :
    fieldsText (fields ++ [field]) =
      fieldsText fields ++ (if fields = [] then ' ' else ',') :: fieldText field := by
  cases fields with
  | nil => simp [fieldsText]
  | cons first rest => simp [fieldsText]

section
variable {p : Point} (untimed : p.timestamp = none)
include untimed

theorem rendered_addTag (unfilled : p.fields = []) (tag : String × String) :
    rendered { p with tags := p.tags ++ [tag] } = p.rendered ++ ',' :: tagText tag := by
  simp [rendered, unfilled, untimed, fieldsText, timeText]

theorem rendered_addField (field : String × FieldValue) :
    rendered { p with fields := p.fields ++ [field] } =
      p.rendered ++ (if p.fields = [] then ' ' else ',') :: fieldText field := by
  simp [rendered, untimed, timeText, fieldsText_append]

theorem rendered_setTimestamp (time : Int64) :
    rendered { p with timestamp := some time } =
      p.rendered ++ ' ' :: (Decimal.ofInt time.toInt).toList := by
  simp [rendered, untimed, timeText]

end
end Point

namespace Builder

/-- The point that a call makes of another one when it is accepted. -/
def Call.note (now : Int64) (p : Point) : Call → Point
  | .reset => p
  | .setMeasurement name => { measurement := name, tags := [], fields := [], timestamp := none }
  | .addTag key value => { p with tags := p.tags ++ [(key, value)] }
  | .addField key value => { p with fields := p.fields ++ [(key, value)] }
  | .setTimestamp time => { p with timestamp := some time }
  | .setTimestampNow => { p with timestamp := some now }
  | .finalize => { p with timestamp := some (p.timestamp.getD now) }

/-- A builder at work, and the point that its accepted calls have made. -/
structure Work where
  builder : Builder
  draft : Point

/-- A builder to which nothing was said. -/
def Work.start (builder : Builder) : Work :=
  { builder, draft := { measurement := "", tags := [], fields := [], timestamp := none } }

/-- A call while the clock shows a time; the draft changes only if the call is accepted. -/
def Work.perform (w : Work) (entry : Int64 × Call) : Work :=
  match w.builder.perform entry.1 entry.2 with
  | (.ok (), builder) => { builder, draft := entry.2.note entry.1 w.draft }
  | (.error _, builder) => { w with builder }

def Work.run (w : Work) (calls : List (Int64 × Call)) : Work :=
  calls.foldl Work.perform w

theorem append_eq_ok {b b' : Builder} {text : String} (h : b.append text = .ok b') :
    b'.text = b.text ++ text ∧ b'.phase = b.phase := by
  obtain ⟨capacity, _, rfl⟩ := map_eq_ok_iff.mp h
  exact ⟨rfl, rfl⟩

theorem orKeep_eq_ok {b b' : Builder} {x : Except RecordError Builder}
    (h : b.orKeep x = (.ok (), b')) : x = .ok b' := by
  cases x with
  | error e => simp [orKeep] at h
  | ok a => simpa [orKeep] using h

theorem orKeep_eq_error {b b' : Builder} {x : Except RecordError Builder} {e : RecordError}
    (h : b.orKeep x = (.error e, b')) : x = .error e ∧ b' = b := by
  cases x with
  | error e' => simpa [orKeep, eq_comm] using h
  | ok a => simp [orKeep] at h

/-- A text is refused only for want of room. -/
theorem append_eq_error {b : Builder} {text : String} {e : RecordError}
    (h : b.append text = .error e) : e = .bufferFull := by
  have full := map_eq_error_iff.mp h
  unfold grown at full
  split at full
  next => contradiction
  next =>
    dsimp only at full
    split at full
    next => contradiction
    next =>
      split at full
      next => contradiction
      next => exact (Except.error.inj full).symm

/-- A builder that was asked to write a text and then to go on to a phase. -/
theorem written_eq_ok {b b' : Builder} {text : String} {phase : Phase}
    (h : (b.append text).map ({ · with phase }) = .ok b') :
    b'.text = b.text ++ text ∧ b'.phase = phase := by
  obtain ⟨a, append, rfl⟩ := map_eq_ok_iff.mp h
  exact ⟨(append_eq_ok append).1, rfl⟩

theorem setMeasurement_eq_ok {b b' : Builder} {name : String}
    (h : b.setMeasurement name = (.ok (), b')) :
    Name.isMeasurement name = true ∧ b'.text = name ∧ b'.phase = .named := by
  unfold setMeasurement at h
  split at h
  next => simp at h
  next =>
    split at h
    next => simp at h
    next valid =>
      obtain ⟨text, phase⟩ := written_eq_ok (orKeep_eq_ok h)
      exact ⟨by simpa using valid, by simpa [reset] using text, phase⟩

theorem addTag_eq_ok {b b' : Builder} {key value : String}
    (h : b.addTag key value = (.ok (), b')) :
    b.phase = .named ∧ Name.isKey key = true ∧ b'.text = b.text ++ ("," ++ key ++ "=" ++ value) ∧
      b'.phase = .named := by
  unfold addTag at h
  split at h
  next => simp at h
  next phase =>
    split at h
    next => simp at h
    next valid =>
      obtain ⟨text, same⟩ := append_eq_ok (orKeep_eq_ok h)
      have named : b.phase = .named := by simpa using phase
      exact ⟨named, by simpa using valid, text, same.trans named⟩

theorem addField_eq_ok {b b' : Builder} {key : String} {value : FieldValue}
    (h : b.addField key value = (.ok (), b')) :
    (b.phase = .named ∨ b.phase = .filled) ∧ Name.isKey key = true ∧ value.isWritable = true ∧
      b'.text = b.text ++ ((if b.hasFields then "," else " ") ++ key ++ "=" ++ value.render) ∧
      b'.phase = .filled := by
  unfold addField at h
  split at h
  next => simp at h
  next phase =>
    split at h
    next => simp at h
    next valid =>
      split at h
      next => simp at h
      next writable =>
        obtain ⟨text, filled⟩ := written_eq_ok (orKeep_eq_ok h)
        refine ⟨?_, by simpa using valid, by simpa using writable, text, filled⟩
        by_cases named : b.phase = .named
        · exact .inl named
        · exact .inr (by simpa [named] using phase)

theorem setTimestamp_eq_ok {b b' : Builder} {time : Int64}
    (h : b.setTimestamp time = (.ok (), b')) :
    b.phase = .filled ∧ b'.text = b.text ++ (" " ++ Decimal.ofInt time.toInt) ∧
      b'.phase = .stamped := by
  unfold setTimestamp at h
  split at h
  next => simp at h
  next phase =>
    obtain ⟨text, stamped⟩ := written_eq_ok (orKeep_eq_ok h)
    exact ⟨by simpa using phase, text, stamped⟩

theorem setTimestamp_eq_error {b b' : Builder} {time : Int64} {e : RecordError}
    (h : b.setTimestamp time = (.error e, b')) : b' = b := by
  unfold setTimestamp at h
  split at h
  next => exact (Prod.mk.inj h).2.symm
  next => exact (orKeep_eq_error h).2

/-- A record that is completed has a field; without a time it gets that of the clock. -/
theorem finalize_eq_ok {b b' : Builder} {now : Int64} (h : b.finalize now = (.ok (), b')) :
    b.hasFields = true ∧ b'.phase = .sealed ∧
      b'.text = if b.hasTimestamp then b.text else b.text ++ (" " ++ Decimal.ofInt now.toInt) := by
  unfold finalize at h
  split at h
  next complete =>
    obtain ⟨_, rfl⟩ := Prod.mk.inj h
    have phase : b.phase = .sealed := by simpa [isSealed] using complete
    simp [hasFields, hasTimestamp, phase]
  next =>
    split at h
    next => simp at h
    next valid =>
      have filled : b.hasFields = true := by
        unfold validate at valid
        split at valid
        next => contradiction
        next =>
          split at valid
          next => contradiction
          next filled => simpa using filled
      refine ⟨filled, ?_⟩
      split at h
      next => simp at h
      next b₁ stamp =>
        obtain ⟨_, rfl⟩ := Prod.mk.inj h
        split at stamp
        next timed =>
          obtain ⟨_, rfl⟩ := Prod.mk.inj stamp
          simp [timed]
        next timeless =>
          obtain ⟨_, text, _⟩ := setTimestamp_eq_ok stamp
          simp [timeless, text]

/-- Nothing has been written. -/
def Blank (b : Builder) : Prop :=
  b.phase = .blank ∧ b.text = ""

theorem finalize_eq_error {b b' : Builder} {now : Int64} {e : RecordError}
    (h : b.finalize now = (.error e, b')) : b' = b := by
  unfold finalize at h
  split at h
  next => simp at h
  next =>
    split at h
    next => exact (Prod.mk.inj h).2.symm
    next =>
      split at h
      next e₁ b₁ stamp =>
        obtain ⟨_, rfl⟩ := Prod.mk.inj h
        split at stamp
        next => simp at stamp
        next =>
          exact setTimestamp_eq_error stamp
      next => simp at h

/-- Whether a refused call has dropped what was written: a measurement for which there is no room has
been noticed too late. -/
def Call.drops : Call → RecordError → Bool
  | .setMeasurement _, .bufferFull => true
  | _, _ => false

/-- A refused call leaves the builder as it was, or blank if there was no room for a measurement. -/
theorem perform_eq_error {b b' : Builder} {now : Int64} {call : Call} {e : RecordError}
    (h : b.perform now call = (.error e, b')) : b' = if call.drops e then b.reset else b := by
  cases call with
  | reset => simp [perform] at h
  | setMeasurement name =>
    rw [perform, setMeasurement] at h
    split at h
    next =>
      obtain ⟨refusal, rfl⟩ := Prod.mk.inj h
      cases refusal
      rfl
    next =>
      split at h
      next =>
        obtain ⟨refusal, rfl⟩ := Prod.mk.inj h
        cases refusal
        rfl
      next =>
        obtain ⟨full, rfl⟩ := orKeep_eq_error h
        cases append_eq_error (map_eq_error_iff.mp full)
        rfl
  | addTag key value =>
    rw [perform, addTag] at h
    split at h
    next => exact (Prod.mk.inj h).2.symm
    next =>
      split at h
      next => exact (Prod.mk.inj h).2.symm
      next => exact (orKeep_eq_error h).2
  | addField key value =>
    rw [perform, addField] at h
    split at h
    next => exact (Prod.mk.inj h).2.symm
    next =>
      split at h
      next => exact (Prod.mk.inj h).2.symm
      next =>
        split at h
        next => exact (Prod.mk.inj h).2.symm
        next => exact (orKeep_eq_error h).2
  | setTimestamp time => exact setTimestamp_eq_error h
  | setTimestampNow => exact setTimestamp_eq_error h
  | finalize => exact finalize_eq_error h

/-- A builder has written a draft of which everything is well formed. -/
structure Drafted (b : Builder) (p : Point) : Prop where
  text : b.text.toList = p.rendered
  measurement : Name.isMeasurement p.measurement = true
  tags : ∀ tag ∈ p.tags, Name.isKey tag.1 = true
  fields : ∀ field ∈ p.fields, Name.isKey field.1 = true ∧ field.2.isWritable = true
  unfilled : p.fields = [] ↔ b.hasFields = false
  untimed : p.timestamp = none ↔ b.hasTimestamp = false

theorem drafted_setMeasurement {b b' : Builder} {name : String}
    (h : b.setMeasurement name = (.ok (), b')) :
    b'.Drafted { measurement := name, tags := [], fields := [], timestamp := none } := by
  obtain ⟨valid, text, phase⟩ := setMeasurement_eq_ok h
  constructor
  · simp [Point.rendered, Point.fieldsText, Point.timeText, text]
  · exact valid
  · simp
  · simp
  · simp [hasFields, phase]
  · simp [hasTimestamp, phase]

theorem Drafted.separator {b : Builder} {p : Point} (d : b.Drafted p) :
    (if b.hasFields then "," else " ").toList = [if p.fields = [] then ' ' else ','] := by
  cases filled : b.hasFields with
  | true => simp [d.unfilled, filled]
  | false => simp [d.unfilled, filled]

theorem Drafted.addTag {b b' : Builder} {p : Point} {key value : String} {now : Int64}
    (d : b.Drafted p) (h : b.addTag key value = (.ok (), b')) :
    b'.Drafted ((Call.addTag key value).note now p) := by
  obtain ⟨phase, valid, text, phase'⟩ := addTag_eq_ok h
  have empty : p.fields = [] := d.unfilled.mpr (by simp [hasFields, phase])
  have open_ : p.timestamp = none := d.untimed.mpr (by simp [hasTimestamp, phase])
  constructor
  · simp [text, d.text, Call.note, Point.rendered_addTag open_ empty, Point.tagText]
  · exact d.measurement
  · exact List.forall_mem_append.mpr ⟨d.tags, by simpa using valid⟩
  · exact d.fields
  · simp [Call.note, empty, hasFields, phase']
  · simp [Call.note, open_, hasTimestamp, phase']

theorem Drafted.addField {b b' : Builder} {p : Point} {key : String} {value : FieldValue}
    {now : Int64} (d : b.Drafted p) (h : b.addField key value = (.ok (), b')) :
    b'.Drafted ((Call.addField key value).note now p) := by
  obtain ⟨phase, valid, writable, text, phase'⟩ := addField_eq_ok h
  have open_ : p.timestamp = none := d.untimed.mpr (by rcases phase with h | h <;>
    simp [hasTimestamp, h])
  constructor
  · simp [text, d.text, d.separator, Call.note, Point.rendered_addField open_, Point.fieldText]
  · exact d.measurement
  · exact d.tags
  · exact List.forall_mem_append.mpr ⟨d.fields, by simpa using ⟨valid, writable⟩⟩
  · simp [Call.note, hasFields, phase']
  · simp [Call.note, open_, hasTimestamp, phase']

theorem Drafted.setTimestamp {b b' : Builder} {p : Point} {time : Int64}
    (d : b.Drafted p) (h : b.setTimestamp time = (.ok (), b')) :
    b'.Drafted { p with timestamp := some time } := by
  obtain ⟨phase, text, phase'⟩ := setTimestamp_eq_ok h
  have open_ : p.timestamp = none := d.untimed.mpr (by simp [hasTimestamp, phase])
  have full : p.fields ≠ [] := fun empty => by simp [d.unfilled, hasFields, phase] at empty
  constructor
  · simp [text, d.text, Point.rendered_setTimestamp open_]
  · exact d.measurement
  · exact d.tags
  · exact d.fields
  · simp [full, hasFields, phase']
  · simp [hasTimestamp, phase']

theorem Drafted.finalize {b b' : Builder} {p : Point} {now : Int64} (d : b.Drafted p)
    (h : b.finalize now = (.ok (), b')) : b'.Drafted (Call.finalize.note now p) := by
  obtain ⟨filled, phase, text⟩ := finalize_eq_ok h
  have full : p.fields ≠ [] := fun empty => by simp [d.unfilled, filled] at empty
  constructor
  · cases timed : b.hasTimestamp with
    | true =>
      have some_ : p.timestamp ≠ none := fun none_ => by simp [d.untimed.mp none_] at timed
      obtain ⟨time, stamped⟩ := Option.ne_none_iff_exists'.mp some_
      simp [text, timed, d.text, Call.note, Point.rendered, stamped]
    | false =>
      have open_ := d.untimed.mpr timed
      simp [text, timed, d.text, Call.note, Point.rendered_setTimestamp open_, open_]
  · exact d.measurement
  · exact d.tags
  · exact d.fields
  · simp [Call.note, full, hasFields, phase]
  · simp [Call.note, hasTimestamp, phase]

/-- An accepted call leaves the builder blank, or with the draft that the call makes. -/
theorem perform_eq_ok {b b' : Builder} {p : Point} {now : Int64} {call : Call}
    (kept : b.Blank ∨ b.Drafted p) (h : b.perform now call = (.ok (), b')) :
    b'.Blank ∨ b'.Drafted (call.note now p) := by
  -- All calls but the first two are refused by a blank builder.
  have drafted : b.phase ≠ .blank → b.Drafted p := fun begun =>
    kept.resolve_left fun blank => begun blank.1
  cases call with
  | reset =>
    obtain ⟨_, rfl⟩ := Prod.mk.inj h
    exact .inl ⟨rfl, rfl⟩
  | setMeasurement name => exact .inr (drafted_setMeasurement h)
  | addTag key value =>
    exact .inr ((drafted (by simp [(addTag_eq_ok h).1])).addTag h)
  | addField key value =>
    exact .inr ((drafted (by rcases (addField_eq_ok h).1 with h | h <;> simp [h])).addField h)
  | setTimestamp time =>
    exact .inr ((drafted (by simp [(setTimestamp_eq_ok h).1])).setTimestamp h)
  | setTimestampNow =>
    exact .inr ((drafted (by simp [(setTimestamp_eq_ok h).1])).setTimestamp h)
  | finalize =>
    have filled := (finalize_eq_ok h).1
    exact .inr ((drafted fun blank => by simp [hasFields, blank] at filled).finalize h)

/-- What every call keeps true of a builder and its draft. -/
def Work.Kept (w : Work) : Prop :=
  w.builder.Blank ∨ w.builder.Drafted w.draft

theorem Work.Kept.perform {w : Work} (h : w.Kept) (entry : Int64 × Call) :
    (w.perform entry).Kept := by
  unfold Work.perform
  split
  next b done => exact perform_eq_ok h done
  next e b refused =>
    rw [perform_eq_error refused]
    split
    next => exact .inl ⟨rfl, rfl⟩
    next => exact h

theorem Work.Kept.run {w : Work} (h : w.Kept) (calls : List (Int64 × Call)) :
    (w.run calls).Kept := by
  induction calls generalizing w with
  | nil => exact h
  | cons entry calls ih => exact ih (h.perform entry)

theorem withCapacity_blank {capacity : Nat} {b : Builder} (h : withCapacity capacity = .ok b) :
    b.Blank := by
  unfold withCapacity at h
  split at h
  next => contradiction
  next =>
    cases h
    exact ⟨rfl, rfl⟩

theorem start_kept {capacity : Nat} {b : Builder} (h : withCapacity capacity = .ok b) :
    (Work.start b).Kept :=
  .inl (withCapacity_blank h)

/-- A record that is taken from a builder is its draft with a time. -/
theorem copy_eq_ok {w : Work} {now : Int64} {record : Record} (h : w.Kept)
    (copied : (w.builder.copy now).1 = .ok record) :
    ∃ b : Builder, record.text = b.text ∧ b.Drafted (Call.finalize.note now w.draft) ∧
      b.hasFields = true := by
  unfold copy at copied
  split at copied
  next => contradiction
  next b done =>
    cases copied
    obtain ⟨filled, phase, _⟩ := finalize_eq_ok done
    refine ⟨b, rfl, Drafted.finalize (h.resolve_left fun blank => ?_) done, ?_⟩
    · simp [hasFields, blank.1] at filled
    · simp [hasFields, phase]

end Builder
end TelemetryRelay
