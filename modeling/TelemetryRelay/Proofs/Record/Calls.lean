import TelemetryRelay.Proofs.Record.Limit

namespace TelemetryRelay.Builder

def tagCalls (tags : List (String × String)) : List Call :=
  tags.map fun tag => .addTag tag.1 tag.2

def fieldCalls (fields : List (String × FieldValue)) : List Call :=
  fields.map fun field => .addField field.1 field.2

theorem admits_tagCalls {tags : List (String × String)} {later : List Call}
    (valid : ∀ tag ∈ tags, Name.isKey tag.1 = true) :
    Phase.named.admits (tagCalls tags ++ later) = Phase.named.admits later := by
  induction tags with
  | nil => rfl
  | cons tag rest ih =>
    obtain ⟨key, others⟩ := List.forall_mem_cons.mp valid
    rw [tagCalls, List.map_cons, List.cons_append, Phase.admits, Call.isProper, key]
    exact ih others

theorem admits_fieldCalls {phase : Phase} {fields : List (String × FieldValue)} {later : List Call}
    (open_ : phase = .named ∨ phase = .filled)
    (valid : ∀ field ∈ fields, Name.isKey field.1 = true ∧ field.2.isWritable = true) :
    phase.admits (fieldCalls fields ++ later) =
      (if fields = [] then phase else .filled).admits later := by
  induction fields generalizing phase with
  | nil => rfl
  | cons field rest ih =>
    obtain ⟨⟨key, writable⟩, others⟩ := List.forall_mem_cons.mp valid
    have timely : phase.refuses (.addField field.1 field.2) = false := by
      rcases open_ with rfl | rfl <;> rfl
    rw [fieldCalls, List.map_cons, List.cons_append, Phase.admits, timely, Call.isProper, key,
      writable]
    have after : Phase.filled.admits (fieldCalls rest ++ later) = Phase.filled.admits later :=
      (ih (.inr rfl) others).trans (by simp)
    exact after

theorem noted_tagCalls (now : Int64) (p : Point) (tags : List (String × String)) :
    noted now p (tagCalls tags) = { p with tags := p.tags ++ tags } := by
  induction tags generalizing p with
  | nil => simp [tagCalls, noted]
  | cons tag rest ih =>
    have later := ih { p with tags := p.tags ++ [tag] }
    rw [List.append_assoc] at later
    exact later

theorem noted_fieldCalls (now : Int64) (p : Point) (fields : List (String × FieldValue)) :
    noted now p (fieldCalls fields) = { p with fields := p.fields ++ fields } := by
  induction fields generalizing p with
  | nil => simp [fieldCalls, noted]
  | cons field rest ih =>
    have later := ih { p with fields := p.fields ++ [field] }
    rw [List.append_assoc] at later
    exact later

end TelemetryRelay.Builder
