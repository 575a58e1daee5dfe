import TelemetryRelay.Proofs.Decimal.Bits
import TelemetryRelay.Proofs.Record.Breaks
import TelemetryRelay.Proofs.Record.Calls
import TelemetryRelay.Proofs.Sampling.Composing

namespace TelemetryRelay

open Text (isLineBreak)

theorem Quoted.Inside.subset {cs text : List Char} (h : Inside cs text) : text ⊆ cs := by
  induction h with
  | nil => exact List.Subset.refl _
  | plain _ _ _ ih => exact List.cons_subset_cons _ ih
  | dropped _ _ ih => exact List.subset_cons_of_subset _ (List.cons_subset_cons _ ih)
  | kept _ _ ih => exact List.cons_subset_cons _ (List.cons_subset_cons _ ih)

theorem Record.exists_read_of_parse {line : String} {r : Record} (parsed : parse line = .ok r) :
    ∃ p, Point.read r.text = .ok p := by
  simp only [parse] at parsed
  split at parsed
  next => contradiction
  next =>
    obtain ⟨p, read, rfl⟩ := map_eq_ok_iff.mp parsed
    exact ⟨p, read⟩

namespace Point

/-- A point of which a builder lets every part in. -/
structure Writable (p : Point) : Prop where
  measurement : Name.isMeasurement p.measurement = true
  tags : ∀ tag ∈ p.tags, IsTag tag
  fields : ∀ field ∈ p.fields, Name.isKey field.1 = true ∧ field.2.isWritable = true
  filled : p.fields ≠ []

theorem BareText.isWritable {cs : List Char} {v : FieldValue} (h : BareText cs v) :
    v.isWritable = true := by
  cases h with
  | yes => rfl
  | no => rfl
  | integer _ => rfl
  | double text => exact Decimal.isFinite_of_readFinite? text

section
variable {cs : List Char} (unbroken : ∀ c ∈ cs, isLineBreak c = false)
include unbroken

theorem ValueText.isWritable {v : FieldValue} (h : ValueText cs v) : v.isWritable = true := by
  cases h with
  | @quoted inside text hi =>
    simp only [FieldValue.isWritable, Bool.not_eq_true', List.any_eq_false, String.toList_ofList]
    intro c hc
    simp [unbroken c (by simp [hi.subset hc])]
  | bare text _ _ => exact text.isWritable

theorem FieldText.valid {field : String × FieldValue} (h : FieldText cs field) :
    Name.isKey field.1 = true ∧ field.2.isWritable = true := by
  cases h with
  | pair name value => exact ⟨name, value.isWritable fun c hc => unbroken c (by simp [hc])⟩

theorem FieldsText.valid {fields : List (String × FieldValue)} (h : FieldsText cs fields) :
    ∀ field ∈ fields, Name.isKey field.1 = true ∧ field.2.isWritable = true := by
  induction h with
  | one text => simpa using text.valid unbroken
  | more first others ih =>
    have here := first.valid fun c hc => unbroken c (by simp [hc])
    exact List.forall_mem_cons.mpr ⟨here, ih fun c hc => unbroken c (by simp [hc])⟩

omit unbroken in
theorem FieldsText.ne_nil {fields : List (String × FieldValue)} (h : FieldsText cs fields) :
    fields ≠ [] := by
  cases h <;> simp

theorem LineText.writable {p : Point} (h : LineText cs p) : p.Writable := by
  cases h with
  | parts named filled _ =>
    have fields := filled.valid fun c hc => unbroken c (by simp [hc])
    cases named with
    | named measurement tagged => exact ⟨measurement, tagged, fields, filled.ne_nil⟩

end

/-- What a record says can be written. -/
theorem writable_of_parse {line : String} {r : Record} {p : Point}
    (parsed : Record.parse line = .ok r) (read : Point.read r.text = .ok p) : p.Writable :=
  (text_of_read read).writable (Record.singleLine_of_parse parsed).2

end Point

namespace Builder

/-- The calls that write a point with a time after its measurement. -/
def partCalls (p : Point) (time : Int64) : List Call :=
  tagCalls p.tags ++ (fieldCalls p.fields ++ [.setTimestamp time])

/-- The calls that write a point with a time. -/
def pointCalls (p : Point) (time : Int64) : List Call :=
  .setMeasurement p.measurement :: partCalls p time

theorem admits_partCalls {p : Point} (writable : p.Writable) (time : Int64) :
    Phase.named.admits (partCalls p time) = true := by
  rw [partCalls, admits_tagCalls fun tag ht => (writable.tags tag ht).key,
    admits_fieldCalls (.inl rfl) writable.fields, if_neg writable.filled]
  rfl

theorem noted_partCalls {p : Point} {time : Int64} (timed : p.timestamp = some time)
    (now : Int64) :
    noted now { measurement := p.measurement, tags := [], fields := [], timestamp := none }
      (partCalls p time) = p := by
  have tags := noted_tagCalls now
    { measurement := p.measurement, tags := [], fields := [], timestamp := none } p.tags
  have fields := noted_fieldCalls now
    { measurement := p.measurement, tags := p.tags, fields := [], timestamp := none } p.fields
  simp only [noted, partCalls, List.foldl_append, List.nil_append] at tags fields ⊢
  rw [tags, fields]
  simp [Call.note, ← timed]

/-- The calls that write a point are all accepted, unless its text is larger than a record may
be. -/
theorem performAll_pointCalls {b : Builder} {p : Point} {time : Int64} (room : b.Roomy)
    (open_ : b.isSealed = false) (writable : p.Writable) (timed : p.timestamp = some time)
    (now : Int64) :
    (Publisher.performAll now b (pointCalls p time)).1 =
        (if p.size ≤ maxSize then .ok () else .error .bufferFull) ∧
      ((Publisher.performAll now b (pointCalls p time)).1 = .ok () →
        (Publisher.performAll now b (pointCalls p time)).2.Drafted p) := by
  rw [pointCalls]
  obtain ⟨full, refused⟩ | ⟨b', room', phase, drafted, rest⟩ :=
    Publisher.performAll_setMeasurement room open_ writable.measurement now (partCalls p time)
  · have beyond : ¬ p.size ≤ maxSize :=
      Nat.not_le.mpr (Nat.lt_of_lt_of_le full p.size_measurement_le)
    exact ⟨by rw [if_neg beyond]; exact refused, by simp [refused]⟩
  · have parts := Publisher.performAll_answer now room' drafted (by simp [phase])
      (phase ▸ admits_partCalls writable time)
    rw [rest]
    rwa [noted_partCalls timed] at parts

theorem Drafted.build_eq {b : Builder} {p : Point} {time : Int64} (d : b.Drafted p)
    (timed : p.timestamp = some time) (now : Int64) :
    b.build now = .ok ⟨String.ofList p.rendered⟩ := by
  have stamped : b.hasTimestamp = true := by
    rw [← Bool.not_eq_false, ← d.untimed, timed]
    simp
  rw [build, copy, finalize_of_timed stamped, ← d.text, String.ofList_toList]

/-- What is read can be written again. A line that is taken as a record says a point. If it has a
time, then a new builder accepts every call that writes the point, unless its text is larger than a
record may be, and there is no other refusal. The record that it makes depends only on the point,
and says the same again: of a double it says what its six places are read as. -/
theorem rewritten_reads_same {line : String} {r : Record} {capacity : Nat} {b : Builder}
    (parsed : Record.parse line = .ok r) (opened : withCapacity capacity = .ok b)
    (now later : Int64) :
    ∃ p, Point.read r.text = .ok p ∧ ∀ time, p.timestamp = some time →
      let written := Publisher.performAll now b (pointCalls p time)
      written.1 = (if p.size ≤ maxSize then .ok () else .error .bufferFull) ∧
        (written.1 = .ok () →
          written.2.build later = .ok ⟨String.ofList p.rendered⟩ ∧
          ∃ fields,
            List.Forall₂ (fun f g => f.1 = g.1 ∧ f.2.ReadsBack g.2) p.fields fields ∧
            Point.read (String.ofList p.rendered) = .ok { p with fields }) := by
  obtain ⟨p, read⟩ := Record.exists_read_of_parse parsed
  refine ⟨p, read, fun time timed => ?_⟩
  intro written
  have writable := Point.writable_of_parse parsed read
  have open_ : b.isSealed = false := by rw [isSealed, (withCapacity_blank opened).1]; rfl
  obtain ⟨answer, drafted⟩ :=
    performAll_pointCalls (withCapacity_roomy opened) open_ writable timed now
  refine ⟨answer, fun done => ?_⟩
  have drafted := drafted done
  have filled : written.2.hasFields = true := by
    rw [← Bool.not_eq_false, ← drafted.unfilled]
    exact writable.filled
  obtain ⟨fields, same, line⟩ :=
    drafted.lineText filled timed fun tag ht => (writable.tags tag ht).value
  have text : written.2.text = String.ofList p.rendered := by
    rw [← drafted.text, String.ofList_toList]
  exact ⟨drafted.build_eq timed later, fields, same, Point.read_of_text (text ▸ line)⟩

/-- A line with signs, exponents, a missing figure, backslashes that hide nothing, and blanks around
its time. -/
def oddLine : String :=
  "m.1,board=,eq=x=y s=\"a\\n\\\"=, b\",n=+0070i,v=+1.5E3,w=-.25e-0,x=7.,t=true \t+012  \r\n"

def oddRecord : Record :=
  ⟨"m.1,board=,eq=x=y s=\"a\\n\\\"=, b\",n=+0070i,v=+1.5E3,w=-.25e-0,x=7.,t=true \t+012  "⟩

def plainRecord : Record :=
  ⟨"m.1,board=,eq=x=y s=\"a\\\\n\\\"=, b\",n=70i,v=1500.000000,w=-0.250000,x=7.000000,t=true 12"⟩

theorem oddLine_reads_same :
    Record.parse oddLine = .ok oddRecord ∧ withCapacity 1024 = .ok {} ∧
      ∃ p, Point.read oddRecord.text = .ok p ∧ p.timestamp = some 12 ∧
        (Publisher.performAll 3 {} (pointCalls p 12)).1 = .ok () ∧
        (Publisher.performAll 3 {} (pointCalls p 12)).2.build 4 = .ok plainRecord ∧
        ∃ fields,
          List.Forall₂ (fun f g => f.1 = g.1 ∧ f.2.ReadsBack g.2) p.fields fields ∧
          Point.read plainRecord.text = .ok { p with fields } := by
  have parsed : Record.parse oddLine = .ok oddRecord := by decide +kernel
  have opened : withCapacity 1024 = .ok {} := rfl
  obtain ⟨p, read, rewritten⟩ := rewritten_reads_same parsed opened 3 4
  have known : (Point.read oddRecord.text).map (fun p => (p.timestamp, String.ofList p.rendered)) =
      .ok (some 12, plainRecord.text) := by decide +kernel
  rw [read] at known
  obtain ⟨timed, text⟩ := Prod.mk.inj (Except.ok.inj known)
  obtain ⟨answer, done⟩ := rewritten 12 timed
  have small : p.size ≤ maxSize := by
    rw [Point.size, text]
    decide +kernel
  have accepted := answer.trans (if_pos small)
  rw [text] at done
  exact ⟨parsed, opened, p, read, timed, accepted, done accepted⟩

end Builder
end TelemetryRelay
