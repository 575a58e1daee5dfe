import TelemetryRelay.Proofs.Decimal.SixPlaces
import TelemetryRelay.Proofs.Record.Draft
import TelemetryRelay.Proofs.Record.Reading

namespace TelemetryRelay

/-- What a value is when it is read back. -/
inductive FieldValue.ReadsBack : FieldValue → FieldValue → Prop where
  | double {v w : Float} (text : Decimal.readFinite? (Decimal.fixed v).toList = some w) :
      ReadsBack (.double v) (.double w)
  | integer (n : Int64) : ReadsBack (.integer n) (.integer n)
  | text (s : String) : ReadsBack (.text s) (.text s)
  | boolean (b : Bool) : ReadsBack (.boolean b) (.boolean b)

theorem FieldValue.exists_readsBack {v : FieldValue} (h : v.isWritable = true) :
    ∃ w, v.ReadsBack w := by
  cases v with
  | double v => exact ⟨_, .double (Decimal.readFinite?_fixed h)⟩
  | integer n => exact ⟨_, .integer n⟩
  | text s => exact ⟨_, .text s⟩
  | boolean b => exact ⟨_, .boolean b⟩

namespace Point

theorem plain_of_isDigit {c : Char} (h : c.isDigit = true) : endsBare c = false ∧ c ≠ '"' := by
  constructor
  · simp only [endsBare, Bool.or_eq_false_iff, beq_eq_false_iff_ne]
    constructor <;> rintro rfl <;> contradiction
  · rintro rfl
    contradiction

/-- A text that stands for itself without quotes. -/
theorem bare_of_plain {cs : List Char} {v : FieldValue} (text : BareText cs v)
    (plain : ∀ c ∈ cs, endsBare c = false ∧ c ≠ '"') : ValueText cs v :=
  .bare text (fun c hc => (plain c hc).1) fun first => (plain _ (List.mem_of_mem_head? first)).2 rfl

theorem plain_of_mem_fixedDigits {v : Float} {c : Char} (h : c ∈ Decimal.fixedDigits v) :
    endsBare c = false ∧ c ≠ '"' := by
  rcases Decimal.mem_fixedDigits h with digit | rfl | rfl
  · exact plain_of_isDigit digit
  · decide
  · decide

theorem render_text {v w : FieldValue} (h : v.ReadsBack w) (writable : v.isWritable = true) :
    ValueText v.render.toList w := by
  cases h with
  | @double v w text =>
    refine bare_of_plain (.double text) fun c hc => ?_
    rw [FieldValue.render, Decimal.fixed_of_isFinite writable, String.toList_ofList] at hc
    exact plain_of_mem_fixedDigits hc
  | integer n =>
    have text := Decimal.ofInt_integerText n.toInt
    rw [FieldValue.render, String.toList_append]
    refine bare_of_plain (.integer text) fun c hc => ?_
    rcases List.mem_append.mp hc with hc | hc
    · rcases text.mem hc with digit | rfl | rfl
      · exact plain_of_isDigit digit
      · decide
      · decide
    · rw [List.mem_singleton.mp hc]
      decide
  | text s =>
    have text := ValueText.quoted (Quoted.escape_inside s.toList)
    rw [String.ofList_toList] at text
    rwa [FieldValue.render, String.toList_ofList]
  | boolean b =>
    cases b with
    | true => exact bare_of_plain .yes (by simp [FieldValue.render, endsBare])
    | false => exact bare_of_plain .no (by simp [FieldValue.render, endsBare])

theorem exists_fieldsText {field : String × FieldValue} {fields : List (String × FieldValue)}
    (valid : ∀ f ∈ field :: fields, Name.isKey f.1 = true ∧ f.2.isWritable = true) :
    ∃ found, List.Forall₂ (fun f g => f.1 = g.1 ∧ f.2.ReadsBack g.2) (field :: fields) found ∧
      FieldsText (fieldText field ++ fields.flatMap fun f => ',' :: fieldText f) found := by
  obtain ⟨name, writable⟩ := valid field (by simp)
  obtain ⟨w, back⟩ := FieldValue.exists_readsBack writable
  have text : FieldText (fieldText field) (field.1, w) := .pair name (render_text back writable)
  induction fields generalizing field w with
  | nil => exact ⟨[(field.1, w)], by simp [back], by simpa using .one text⟩
  | cons next fields ih =>
    obtain ⟨name', writable'⟩ := valid next (by simp)
    obtain ⟨w', back'⟩ := FieldValue.exists_readsBack writable'
    obtain ⟨found, same, texts⟩ := ih (fun f hf => valid f (List.mem_cons_of_mem _ hf)) name'
      writable' w' back' (.pair name' (render_text back' writable'))
    exact ⟨(field.1, w) :: found, .cons ⟨rfl, back⟩ same, .more text texts⟩

theorem timeText_endText (time : Int64) : EndText (timeText (some time)) (some time) := by
  have text : TimeText ([] ++ (Decimal.ofInt time.toInt).toList ++ []) time :=
    .spaced (fun c hc => nomatch hc) (Decimal.ofInt_integerText _) fun c hc => nomatch hc
  rw [List.nil_append, List.append_nil] at text
  exact .timed text

/-- The text of a point is a text of what its parts are when they are read back. -/
theorem lineText_rendered {p : Point} (measurement : Name.isMeasurement p.measurement = true)
    (tags : ∀ tag ∈ p.tags, IsTag tag)
    (valid : ∀ f ∈ p.fields, Name.isKey f.1 = true ∧ f.2.isWritable = true)
    (filled : p.fields ≠ []) (ended : EndText (timeText p.timestamp) p.timestamp) :
    ∃ fields, List.Forall₂ (fun f g => f.1 = g.1 ∧ f.2.ReadsBack g.2) p.fields fields ∧
      LineText p.rendered { p with fields } := by
  obtain ⟨field, rest, eq⟩ := List.exists_cons_of_ne_nil filled
  rw [eq] at valid
  obtain ⟨fields, same, texts⟩ := exists_fieldsText valid
  refine ⟨fields, eq ▸ same, ?_⟩
  rw [rendered, eq]
  exact .parts (p := { p with fields }) (.named measurement tags) texts ended

end Point

namespace Builder

/-- A draft with a field and a time is a text of what its parts are when they are read back. -/
theorem Drafted.lineText {b : Builder} {p : Point} {time : Int64} (d : b.Drafted p)
    (filled : b.hasFields = true) (timed : p.timestamp = some time)
    (unbroken : ∀ tag ∈ p.tags, Point.Unbroken tag.2.toList) :
    ∃ fields, List.Forall₂ (fun f g => f.1 = g.1 ∧ f.2.ReadsBack g.2) p.fields fields ∧
      Point.LineText b.text.toList { p with fields } := by
  have some_field : p.fields ≠ [] := fun empty => by simp [d.unfilled, filled] at empty
  rw [d.text]
  exact Point.lineText_rendered d.measurement (fun tag ht => ⟨d.tags tag ht, unbroken tag ht⟩)
    d.fields some_field (timed ▸ Point.timeText_endText time)

/-- What a builder writes is read back. After any calls on it, taken or refused, a record that is
copied from it is read as the point that the accepted calls made since the last measurement: with
the tags and the fields in their order, and with the time that was set or that of the clock. -/
theorem copy_reads_back {capacity : Nat} {b : Builder} (opened : withCapacity capacity = .ok b)
    (calls : List (Int64 × Call)) (now : Int64) {record : Record}
    (copied : (((Work.start b).run calls).builder.copy now).1 = .ok record)
    (unbroken : ∀ tag ∈ ((Work.start b).run calls).draft.tags, Point.Unbroken tag.2.toList) :
    ∃ fields,
      List.Forall₂ (fun f g => f.1 = g.1 ∧ f.2.ReadsBack g.2)
        ((Work.start b).run calls).draft.fields fields ∧
      Point.read record.text = .ok
        { measurement := ((Work.start b).run calls).draft.measurement
          tags := ((Work.start b).run calls).draft.tags
          fields
          timestamp := some (((Work.start b).run calls).draft.timestamp.getD now) } := by
  obtain ⟨b', text, drafted, filled⟩ := copy_eq_ok ((start_kept opened).run calls) copied
  obtain ⟨fields, same, line⟩ := drafted.lineText filled rfl unbroken
  exact ⟨fields, same, Point.read_of_text (text ▸ line)⟩

/-- Accepted and refused calls in turn, with a text full of separators. -/
def mixedCalls : List (Int64 × Call) :=
  [(1, .addTag "early" "tag"), (1, .setMeasurement "old"), (1, .addField "gone" (.boolean true)),
    (2, .setMeasurement "_m"), (2, .setMeasurement "m.1"), (3, .addTag "board" ""),
    (3, .addTag "a-b" "c"), (3, .addTag "eq" "x=y"), (4, .addField "s" (.text "a=\"b\\, ")),
    (4, .addField "t" (.text "\n")), (4, .addTag "late" "tag"),
    (5, .addField "n" (.integer (-9223372036854775808))), (6, .setTimestamp (-7)),
    (6, .setTimestampNow), (6, .addField "u" (.boolean false)), (7, .finalize), (8, .finalize),
    (8, .setMeasurement "m")]

theorem mixedCalls_read_back :
    withCapacity 200 = .ok { capacity := 200 } ∧
      (((Work.start { capacity := 200 }).run mixedCalls).builder.copy 9).1 =
        .ok ⟨"m.1,board=,eq=x=y s=\"a=\\\"b\\\\, \",n=-9223372036854775808i -7"⟩ ∧
      (∀ tag ∈ ((Work.start { capacity := 200 }).run mixedCalls).draft.tags,
        Point.Unbroken tag.2.toList) ∧
      ∃ fields,
        List.Forall₂ (fun f g => f.1 = g.1 ∧ f.2.ReadsBack g.2)
          ((Work.start { capacity := 200 }).run mixedCalls).draft.fields fields ∧
        Point.read "m.1,board=,eq=x=y s=\"a=\\\"b\\\\, \",n=-9223372036854775808i -7" = .ok
          { measurement := ((Work.start { capacity := 200 }).run mixedCalls).draft.measurement
            tags := ((Work.start { capacity := 200 }).run mixedCalls).draft.tags
            fields
            timestamp := some
              (((Work.start { capacity := 200 }).run mixedCalls).draft.timestamp.getD 9) } := by
  have opened : withCapacity 200 = .ok { capacity := 200 } := rfl
  have copied : (((Work.start { capacity := 200 }).run mixedCalls).builder.copy 9).1 =
      .ok ⟨"m.1,board=,eq=x=y s=\"a=\\\"b\\\\, \",n=-9223372036854775808i -7"⟩ := by
    decide +kernel
  have tags : ((Work.start { capacity := 200 }).run mixedCalls).draft.tags =
      [("board", ""), ("eq", "x=y")] := by decide +kernel
  have unbroken : ∀ tag ∈ ((Work.start { capacity := 200 }).run mixedCalls).draft.tags,
      Point.Unbroken tag.2.toList := by
    simp [tags, Point.Unbroken, Point.endsBare]
  exact ⟨opened, copied, unbroken, copy_reads_back opened mixedCalls 9 copied unbroken⟩

end Builder
end TelemetryRelay
