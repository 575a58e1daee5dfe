import TelemetryRelay.Proofs.Record.RoundTrip
import TelemetryRelay.Proofs.Record.SingleLine

namespace TelemetryRelay

open Text (isLineBreak)

theorem Text.not_isLineBreak_of_isDigit {c : Char} (h : c.isDigit = true) :
    isLineBreak c = false := by
  simp only [isLineBreak, Bool.or_eq_false_iff, beq_eq_false_iff_ne]
  constructor <;> rintro rfl <;> contradiction

theorem Text.no_break_of_not_mem {cs : List Char} (feed : '\n' ∉ cs) (return_ : '\r' ∉ cs) {c : Char}
    (mem : c ∈ cs) : isLineBreak c = false := by
  simp only [isLineBreak, Bool.or_eq_false_iff, beq_eq_false_iff_ne]
  constructor <;> rintro rfl <;> contradiction

theorem Quoted.mem_of_mem_escape {cs : List Char} {c : Char} (h : c ∈ escape cs) :
    c ∈ cs ∨ c = '\\' := by
  obtain ⟨d, mem, hc⟩ := List.mem_flatMap.mp h
  split at hc
  next =>
    rcases List.mem_cons.mp hc with rfl | hc
    · exact .inr rfl
    · exact .inl (List.mem_singleton.mp hc ▸ mem)
  next => exact .inl (List.mem_singleton.mp hc ▸ mem)

theorem Decimal.IntegerText.no_break {cs : List Char} {n : Int} (h : IntegerText cs n) {c : Char}
    (mem : c ∈ cs) : isLineBreak c = false := by
  rcases h.mem mem with digit | rfl | rfl
  · exact Text.not_isLineBreak_of_isDigit digit
  · decide
  · decide

theorem FieldValue.render_no_break {v : FieldValue} (h : v.isWritable = true) {c : Char}
    (mem : c ∈ v.render.toList) : isLineBreak c = false := by
  cases v with
  | double v =>
    rw [render, Decimal.fixed_of_isFinite h, String.toList_ofList] at mem
    rcases Decimal.mem_fixedDigits mem with digit | rfl | rfl
    · exact Text.not_isLineBreak_of_isDigit digit
    · decide
    · decide
  | integer n =>
    rw [render, String.toList_append] at mem
    rcases List.mem_append.mp mem with figure | unit
    · exact (Decimal.ofInt_integerText n.toInt).no_break figure
    · rw [List.mem_singleton.mp unit]
      decide
  | text s =>
    simp only [render, String.toList_ofList, List.cons_append, List.mem_cons, List.mem_append,
      List.not_mem_nil, or_false] at mem
    rcases mem with rfl | inside | rfl
    · decide
    · rcases Quoted.mem_of_mem_escape inside with old | rfl
      · simp only [isWritable, Bool.not_eq_true', List.any_eq_false] at h
        simpa using h c old
      · decide
    · decide
  | boolean b =>
    have plain : (boolean b).render.toList.any isLineBreak = false := by cases b <;> decide
    simpa using List.any_eq_false.mp plain c mem

namespace Point

theorem key_no_break {key : String} (h : Name.isKey key = true) {c : Char} (mem : c ∈ key.toList) :
    isLineBreak c = false :=
  Text.no_break_of_not_mem (not_mem_key h (by decide)) (not_mem_key h (by decide)) mem

theorem measurement_no_break {name : String} (h : Name.isMeasurement name = true) {c : Char}
    (mem : c ∈ name.toList) : isLineBreak c = false :=
  Text.no_break_of_not_mem (not_mem_measurement h (by decide)) (not_mem_measurement h (by decide))
    mem

theorem fieldText_no_break {field : String × FieldValue}
    (valid : Name.isKey field.1 = true ∧ field.2.isWritable = true) {c : Char}
    (mem : c ∈ fieldText field) : isLineBreak c = false := by
  simp only [fieldText, List.mem_append, List.mem_cons] at mem
  rcases mem with key | rfl | value
  · exact key_no_break valid.1 key
  · decide
  · exact FieldValue.render_no_break valid.2 value

theorem fieldsText_no_break {fields : List (String × FieldValue)}
    (valid : ∀ field ∈ fields, Name.isKey field.1 = true ∧ field.2.isWritable = true) {c : Char}
    (mem : c ∈ fieldsText fields) : isLineBreak c = false := by
  cases fields with
  | nil => simp [fieldsText] at mem
  | cons field fields =>
    simp only [fieldsText, List.mem_cons, List.mem_append, List.mem_flatMap] at mem
    rcases mem with rfl | first | ⟨other, later, rfl | mem⟩
    · decide
    · exact fieldText_no_break (valid field (by simp)) first
    · decide
    · exact fieldText_no_break (valid other (by simp [later])) mem

theorem timeText_no_break {time : Option Int64} {c : Char} (mem : c ∈ timeText time) :
    isLineBreak c = false := by
  cases time with
  | none => simp [timeText] at mem
  | some time =>
    rcases List.mem_cons.mp mem with rfl | figure
    · decide
    · exact (Decimal.ofInt_integerText time.toInt).no_break figure

end Point

namespace Builder
variable {b : Builder} {p : Point}

/-- The line breaks in what a builder has written are those of its tag values. -/
theorem Drafted.no_break_iff (d : b.Drafted p) :
    (∀ c ∈ b.text.toList, isLineBreak c = false) ↔
      ∀ tag ∈ p.tags, ∀ c ∈ tag.2.toList, isLineBreak c = false := by
  rw [d.text]
  constructor
  · intro h tag ht c hc
    apply h
    simp only [Point.rendered, List.mem_append, List.mem_flatMap]
    exact .inl (.inr ⟨tag, ht, by simp [Point.tagText, hc]⟩)
  · intro h c hc
    simp only [Point.rendered, List.mem_append, List.mem_flatMap] at hc
    rcases hc with (name | ⟨tag, ht, mem⟩) | field | time
    · exact Point.measurement_no_break d.measurement name
    · simp only [Point.tagText, List.mem_cons, List.mem_append] at mem
      rcases mem with rfl | key | rfl | value
      · decide
      · exact Point.key_no_break (d.tags tag ht) key
      · decide
      · exact h tag ht c value
    · exact Point.fieldsText_no_break d.fields field
    · exact Point.timeText_no_break time

/-- A record that has its time does not end in a line break. -/
theorem Drafted.last_no_break (d : b.Drafted p) {time : Int64} (timed : p.timestamp = some time) :
    b.text.toList ≠ [] ∧ ∀ c ∈ b.text.toList.getLast?, isLineBreak c = false := by
  have ends : b.text.toList = (p.measurement.toList ++
      p.tags.flatMap (fun tag => ',' :: Point.tagText tag) ++ Point.fieldsText p.fields) ++
        ' ' :: (Decimal.ofInt time.toInt).toList := by
    rw [d.text, Point.rendered, timed]
    simp [Point.timeText]
  rw [ends]
  refine ⟨by simp, fun c hc => ?_⟩
  rw [List.getLast?_append_of_ne_nil _ (by simp)] at hc
  exact @Point.timeText_no_break (some time) c (List.mem_of_getLast? hc)

end Builder

/-- A line that is taken as a record is one line. -/
theorem Record.singleLine_of_parse {line : String} {r : Record} (h : parse line = .ok r) :
    r.SingleLine := by
  simp only [parse] at h
  split at h
  next => simp at h
  next plain =>
    obtain ⟨p, read, rfl⟩ := map_eq_ok_iff.mp h
    constructor
    · intro empty
      have text := Point.text_of_read read
      rw [empty] at text
      generalize eq : ([] : List Char) = cs at text
      cases text with
      | parts => simp at eq
    · intro c hc
      rw [String.toList_ofList] at hc
      simpa using List.any_eq_false.mp (Bool.not_eq_true _ ▸ plain) c hc

end TelemetryRelay
