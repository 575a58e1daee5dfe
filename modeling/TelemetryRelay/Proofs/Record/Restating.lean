import TelemetryRelay.Proofs.Decimal.Stability
import TelemetryRelay.Proofs.Record.Rewriting

namespace TelemetryRelay

theorem FieldValue.render_readsBack {v w : FieldValue} (h : v.ReadsBack w)
    (writable : v.isWritable = true) : w.render = v.render := by
  cases h with
  | @double v w text =>
    have finite : Binary64.isFinite v = true := writable
    obtain rfl := Option.some.inj ((Decimal.readFinite?_fixed finite).symm.trans text)
    exact Decimal.fixed_sixPlaces finite
  | integer n => rfl
  | text s => rfl
  | boolean b => rfl

namespace Point

/-- Fields that are read back have the texts that they were read from. -/
theorem map_fieldText_readsBack {fields found : List (String × FieldValue)}
    (writable : ∀ f ∈ fields, f.2.isWritable = true)
    (same : List.Forall₂ (fun f g => f.1 = g.1 ∧ f.2.ReadsBack g.2) fields found) :
    found.map fieldText = fields.map fieldText := by
  induction same with
  | nil => rfl
  | @cons f g fields found back _ ih =>
    obtain ⟨first, later⟩ := List.forall_mem_cons.mp writable
    have text : fieldText g = fieldText f := by
      rw [fieldText, fieldText, back.1, FieldValue.render_readsBack back.2 first]
    rw [List.map_cons, List.map_cons, text, ih later]

theorem fieldsText_congr {fields found : List (String × FieldValue)}
    (same : found.map fieldText = fields.map fieldText) : fieldsText found = fieldsText fields := by
  have joined (fields : List (String × FieldValue)) :
      (fields.flatMap fun f => ',' :: fieldText f) = (fields.map fieldText).flatMap (',' :: ·) := by
    rw [List.flatMap_map]
  cases fields with
  | nil => rw [List.map_eq_nil_iff.mp same]
  | cons f fields =>
    obtain ⟨g, rest, rfl, first, later⟩ := List.map_eq_cons_iff.mp same
    rw [fieldsText, fieldsText, first, joined, joined, later]

/-- The text of a point is read as a point with this text. -/
theorem Writable.read_rendered {p : Point} (writable : p.Writable) :
    ∃ fields, read (String.ofList p.rendered) = .ok { p with fields } ∧
      rendered { p with fields } = p.rendered := by
  have ended : EndText (timeText p.timestamp) p.timestamp := by
    cases p.timestamp with
    | none => exact .untimed
    | some time => exact timeText_endText time
  obtain ⟨fields, same, line⟩ := lineText_rendered writable.measurement writable.tags
    writable.fields writable.filled ended
  have texts := map_fieldText_readsBack (fun f mem => (writable.fields f mem).2) same
  refine ⟨fields, read_of_text (by rwa [String.toList_ofList]), ?_⟩
  rw [rendered, rendered, fieldsText_congr texts]

/-- Six places are a fixed point. The text of a finite double is the numeral of its exact value
rounded to millionths. It is read as a double and as nothing else, which is finite, has the same sign
and is nearest to that numeral; and the text of that double is the same again. So what can be written
as a record is read as something that is written as the same record. -/
theorem double_text_fixed :
    (∀ v : Float, Binary64.isFinite v = true →
      Binary64.RoundsTo (Binary64.units v * 1000000) (Binary64.twoTo 1074) (Decimal.millionths v) ∧
        Decimal.readNumeral? (FieldValue.double v).render.toList = some (Decimal.sixPlaces v) ∧
        ∃ w, readBare (FieldValue.double v).render.toList = .ok (.double w) ∧
          Binary64.isFinite w = true ∧ Binary64.isNegative w = Binary64.isNegative v ∧
          Binary64.IsNearest (Decimal.millionths v) 1000000 w ∧
          (FieldValue.double w).render = (FieldValue.double v).render) ∧
      ∀ p : Point, p.Writable →
        ∃ fields, read (String.ofList p.rendered) = .ok { p with fields } ∧
          rendered { p with fields } = p.rendered := by
  refine ⟨fun v finite => ⟨?_, ?_, (Decimal.sixPlaces v).toFloat, ?_, ?_, ?_, ?_, ?_⟩,
    fun p writable => writable.read_rendered⟩
  · exact Binary64.roundHalfEven_roundsTo _ (Binary64.twoTo_pos _)
  · rw [FieldValue.render, Decimal.fixed_of_isFinite finite, String.toList_ofList,
      Decimal.readNumeral?_fixedDigits]
  · exact readBare_of_text (.double (Decimal.readFinite?_fixed finite))
  · exact Decimal.isFinite_of_readFinite? (Decimal.readFinite?_fixed finite)
  · exact Decimal.isNegative_sixPlaces finite
  · exact Decimal.isNearest_sixPlaces finite
  · exact Decimal.fixed_sixPlaces finite

/-- The double next to zero on the negative side. -/
def leastNegative : Float :=
  Float.ofBits 0x8000000000000001

/-- A point with a double that no six places can show. -/
def faintPoint : Point where
  measurement := "m"
  tags := []
  fields := [("v", .double leastNegative)]
  timestamp := none

theorem leastNegative_text_fixed :
    Binary64.isFinite leastNegative = true ∧
      (FieldValue.double leastNegative).render = "-0.000000" ∧
      (∃ w, readBare "-0.000000".toList = .ok (.double w) ∧ Binary64.isNegative w = true ∧
        (FieldValue.double w).render = "-0.000000") ∧
      faintPoint.Writable ∧ String.ofList faintPoint.rendered = "m v=-0.000000" ∧
      ∃ fields, read "m v=-0.000000" = .ok { faintPoint with fields } ∧
        String.ofList (rendered { faintPoint with fields }) = "m v=-0.000000" := by
  have finite : Binary64.isFinite leastNegative = true := by decide +kernel
  have negative : Binary64.isNegative leastNegative = true := by decide +kernel
  have text : (FieldValue.double leastNegative).render = "-0.000000" := by decide +kernel
  have line : String.ofList faintPoint.rendered = "m v=-0.000000" := by decide +kernel
  have writable : faintPoint.Writable := by
    refine ⟨by decide, by simp [faintPoint], ?_, by simp [faintPoint]⟩
    rintro field mem
    obtain rfl := List.mem_singleton.mp mem
    exact ⟨by decide, finite⟩
  obtain ⟨doubles, points⟩ := double_text_fixed
  obtain ⟨-, -, w, bare, -, sign, -, again⟩ := doubles leastNegative finite
  obtain ⟨fields, whole, same⟩ := points faintPoint writable
  rw [text] at bare again
  rw [line] at whole
  exact ⟨finite, text, ⟨w, bare, sign.trans negative, again⟩, writable, line, fields, whole,
    same ▸ line⟩

end Point
end TelemetryRelay
