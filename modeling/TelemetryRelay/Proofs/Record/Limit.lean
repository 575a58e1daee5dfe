import TelemetryRelay.Proofs.Record.Stages

namespace TelemetryRelay

/-- The size of a point in bytes, as a builder writes it. -/
def Point.size (p : Point) : Nat :=
  (String.ofList p.rendered).utf8ByteSize

theorem Point.size_measurement_le (p : Point) : p.measurement.utf8ByteSize ≤ p.size := by
  simp [size, rendered]

namespace Builder

/-- Whether what a call writes is well formed. -/
def Call.isProper : Call → Bool
  | .setMeasurement name => Name.isMeasurement name
  | .addTag key _ => Name.isKey key
  | .addField key value => Name.isKey key && value.isWritable
  | _ => true

/-- Whether calls come one after the other at their stages, each adding something well formed. -/
def Phase.admits : Phase → List Call → Bool
  | _, [] => true
  | phase, call :: rest =>
    !phase.refuses call && call.isProper && call.adds && call.next.admits rest

/-- The point that accepted calls make of another one. -/
def noted (now : Int64) (p : Point) (calls : List Call) : Point :=
  calls.foldl (fun p call => call.note now p) p

section
variable {b b' : Builder} {p : Point} {now : Int64} {call : Call}

theorem Drafted.size_eq (d : b.Drafted p) : p.size = b.size := by
  rw [Point.size, ← d.text, String.ofList_toList, size]

theorem Drafted.timestamp_eq_none (d : b.Drafted p) (phase : b.phase = .named ∨ b.phase = .filled) :
    p.timestamp = none :=
  d.untimed.mpr (by rcases phase with h | h <;> simp [hasTimestamp, h])

theorem finalize_of_timed (timed : b.hasTimestamp = true) :
    b.finalize now = (.ok (), { b with phase := .sealed }) := by
  obtain ⟨text, capacity, phase⟩ := b
  cases phase <;> first | rfl | simp [hasTimestamp] at timed

/-- The checks have nothing against a timely and well-formed call. -/
theorem objection_eq_none (begun : b.phase ≠ .blank) (timely : b.phase.refuses call = false)
    (proper : call.isProper = true) : b.objection call = none := by
  obtain ⟨text, capacity, phase⟩ := b
  cases call with
  | reset => rfl
  | setMeasurement name =>
    have valid : Name.isMeasurement name = true := proper
    simpa [objection, isSealed, valid, Phase.refuses] using timely
  | addTag key value =>
    have valid : Name.isKey key = true := proper
    cases phase <;> simp_all [objection, hasMeasurement, hasFields, Phase.refuses]
  | addField key value =>
    obtain ⟨valid, writable⟩ := Bool.and_eq_true_iff.mp proper
    cases phase <;> simp_all [objection, hasMeasurement, hasTimestamp, Phase.refuses]
  | setTimestamp time =>
    cases phase <;> simp_all [objection, hasFields, hasTimestamp, Phase.refuses]
  | setTimestampNow =>
    cases phase <;> simp_all [objection, hasFields, hasTimestamp, Phase.refuses]
  | finalize => cases phase <;> simp_all [objection, hasMeasurement, hasFields, Phase.refuses]

/-- The text that a call produces is that of the point with what the call adds to it. -/
theorem Drafted.produced_eq (d : b.Drafted p) (now : Int64) (timely : b.phase.refuses call = false)
    (adds : call.adds = true) : (b.produced now call).toList = (call.note now p).rendered := by
  have stamped (untimed : p.timestamp = none) (time : Int64) :
      (b.text ++ (" " ++ Decimal.ofInt time.toInt)).toList =
        { p with timestamp := some time }.rendered := by
    simp [Point.rendered_setTimestamp untimed, d.text]
  cases call with
  | reset => contradiction
  | setMeasurement name => contradiction
  | addTag key value =>
    have named : b.phase = .named := by simpa [Phase.refuses] using timely
    have unfilled : p.fields = [] := d.unfilled.mpr (by simp [hasFields, named])
    have rendered := Point.rendered_addTag (d.timestamp_eq_none (.inl named)) unfilled (key, value)
    simp [produced, Call.note, rendered, Point.tagText, d.text]
  | addField key value =>
    have phase : b.phase = .named ∨ b.phase = .filled := by
      simpa [Phase.refuses, or_iff_not_imp_left] using timely
    have rendered := Point.rendered_addField (d.timestamp_eq_none phase) (key, value)
    simp [produced, Call.note, rendered, d.separator, Point.fieldText, d.text]
  | setTimestamp time =>
    have filled : b.phase = .filled := by simpa [Phase.refuses] using timely
    exact stamped (d.timestamp_eq_none (.inr filled)) time
  | setTimestampNow =>
    have filled : b.phase = .filled := by simpa [Phase.refuses] using timely
    exact stamped (d.timestamp_eq_none (.inr filled)) now
  | finalize =>
    rw [produced, Call.note]
    cases timed : b.hasTimestamp with
    | false =>
      have untimed := d.untimed.mpr timed
      rw [untimed]
      exact stamped untimed now
    | true =>
      obtain ⟨time, some_⟩ : ∃ time, p.timestamp = some time :=
        Option.ne_none_iff_exists'.mp fun none_ => by simp [d.untimed.mp none_] at timed
      rw [some_, Option.getD_some, ← some_]
      exact d.text

/-- A timely and well-formed call is refused exactly if the record would become too large. -/
theorem Drafted.perform_answer (now : Int64) (room : b.Roomy) (d : b.Drafted p)
    (begun : b.phase ≠ .blank) (timely : b.phase.refuses call = false)
    (proper : call.isProper = true) (adds : call.adds = true) :
    (b.perform now call).1 =
      if (call.note now p).size ≤ maxSize then .ok () else .error .bufferFull := by
  rw [room.perform_fst (objection_eq_none begun timely proper), Point.size,
    ← d.produced_eq now timely adds, String.ofList_toList]

/-- An added part makes the record larger; a time is added where there was none. -/
theorem size_le_note (adds : call.adds = true)
    (untimed : call.next = .stamped → p.timestamp = none) : p.size ≤ (call.note now p).size := by
  have timed (time : Int64) (none_ : p.timestamp = none) :
      p.size ≤ { p with timestamp := some time }.size := by
    simp only [Point.size, Point.rendered_setTimestamp none_, String.ofList_append,
      String.utf8ByteSize_append]
    omega
  cases call with
  | reset => contradiction
  | setMeasurement name => contradiction
  | addTag key value =>
    simp only [Point.size, Call.note, Point.rendered, List.flatMap_append, String.ofList_append,
      String.utf8ByteSize_append]
    omega
  | addField key value =>
    simp only [Point.size, Call.note, Point.rendered, Point.fieldsText_append,
      String.ofList_append, String.utf8ByteSize_append]
    omega
  | setTimestamp time => exact timed time (untimed rfl)
  | setTimestampNow => exact timed now (untimed rfl)
  | finalize =>
    cases stamp : p.timestamp with
    | none =>
      rw [Call.note, stamp]
      exact timed now stamp
    | some time => rw [Call.note, stamp, Option.getD_some, ← stamp]

/-- A point has no time at the phases before the time. -/
def Phase.Untimed (phase : Phase) (p : Point) : Prop :=
  phase = .named ∨ phase = .filled → p.timestamp = none

theorem untimed_note (now : Int64) {phase : Phase} (untimed : phase.Untimed p)
    (timely : phase.refuses call = false) (adds : call.adds = true) :
    call.next.Untimed (call.note now p) ∧ (call.next = .stamped → p.timestamp = none) := by
  cases call with
  | reset => contradiction
  | setMeasurement name => contradiction
  | addTag key value =>
    have named : phase = .named := by simpa [Phase.refuses] using timely
    exact ⟨fun _ => untimed (.inl named), by simp [Call.next]⟩
  | addField key value =>
    have open_ : phase = .named ∨ phase = .filled := by
      simpa [Phase.refuses, or_iff_not_imp_left] using timely
    exact ⟨fun _ => untimed open_, by simp [Call.next]⟩
  | setTimestamp time =>
    have filled : phase = .filled := by simpa [Phase.refuses] using timely
    exact ⟨by simp [Call.next, Phase.Untimed], fun _ => untimed (.inr filled)⟩
  | setTimestampNow =>
    have filled : phase = .filled := by simpa [Phase.refuses] using timely
    exact ⟨by simp [Call.next, Phase.Untimed], fun _ => untimed (.inr filled)⟩
  | finalize => simp [Call.next, Phase.Untimed]

theorem admits_cons {phase : Phase} {calls : List Call} :
    phase.admits (call :: calls) = true ↔
      phase.refuses call = false ∧ call.isProper = true ∧ call.adds = true ∧
        call.next.admits calls = true := by
  simp [Phase.admits, and_assoc]

theorem size_le_noted (now : Int64) {phase : Phase} {calls : List Call}
    (untimed : phase.Untimed p) (admitted : phase.admits calls = true) :
    p.size ≤ (noted now p calls).size := by
  induction calls generalizing phase p with
  | nil => exact Nat.le_refl _
  | cons call calls ih =>
    obtain ⟨timely, _, adds, rest⟩ := admits_cons.mp admitted
    obtain ⟨still, fresh⟩ := untimed_note now untimed timely adds
    exact Nat.le_trans (size_le_note adds fresh) (ih still rest)

section
variable {key : String} {value : FieldValue} (open_ : b.phase = .named ∨ b.phase = .filled)
  (valid : Name.isKey key = true)
include open_ valid

theorem addField_refused {e : RecordError} (writable : value.isWritable = true)
    (h : b.addField key value = (.error e, b')) : e = .bufferFull := by
  rw [addField, if_neg (by simpa [or_iff_not_imp_left] using open_), if_neg (by simp [valid]),
    if_neg (by simp [writable])] at h
  exact append_eq_error (map_eq_error_iff.mp (orKeep_eq_error h).1)

theorem addField_unwritable (unwritable : value.isWritable = false) :
    b.addField key value = (.error .invalidParameter, b) := by
  rw [addField, if_neg (by simpa [or_iff_not_imp_left] using open_), if_neg (by simp [valid]),
    if_pos (by simp [unwritable])]

end

end
end Builder
end TelemetryRelay
