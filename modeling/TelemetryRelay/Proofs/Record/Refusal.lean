import TelemetryRelay.Proofs.Record.Requests

namespace TelemetryRelay.Builder

/-- A call that begins a record with a name that is larger than a record may be. -/
def Overlong (b : Builder) : Call → Prop
  | .setMeasurement name =>
    b.isSealed = false ∧ Name.isMeasurement name = true ∧ maxSize < name.utf8ByteSize
  | _ => False

section
variable {b b' : Builder} {now : Int64} {call : Call} {e : RecordError}

theorem setMeasurement_overlong {name : String} (room : b.Roomy)
    (long : b.Overlong (.setMeasurement name)) :
    b.setMeasurement name = (.error .bufferFull, b.reset) := by
  obtain ⟨open_, valid, large⟩ := long
  have answer := room.setMeasurement_answer open_ valid
  rw [if_neg (Nat.not_le.mpr large)] at answer
  exact Prod.ext answer (@perform_eq_error b _ 0 (.setMeasurement name) _ (Prod.ext answer rfl))

theorem overlong_of_setMeasurement {name : String} (room : b.Roomy)
    (h : b.setMeasurement name = (.error .bufferFull, b')) : b.Overlong (.setMeasurement name) := by
  have answer := congrArg Prod.fst h
  cases open_ : b.isSealed with
  | true => simp [setMeasurement, open_] at answer
  | false =>
    cases valid : Name.isMeasurement name with
    | false => simp [setMeasurement, open_, valid] at answer
    | true =>
      rw [room.setMeasurement_answer open_ valid] at answer
      exact ⟨open_, valid, Nat.lt_of_not_le fun fits => by simp [fits] at answer⟩

/-- Of the refused calls exactly those that are overlong have dropped what was written. -/
theorem drops_iff_overlong (room : b.Roomy) (h : b.perform now call = (.error e, b')) :
    call.drops e = true ↔ b.Overlong call := by
  cases call with
  | setMeasurement name =>
    constructor
    · intro drops
      cases e with
      | bufferFull => exact overlong_of_setMeasurement room h
      | _ => simp [Call.drops] at drops
    · intro long
      have full := setMeasurement_overlong room long
      rw [perform, full] at h
      cases (Prod.mk.inj h).1
      rfl
  | _ => simp [Call.drops, Overlong]

theorem Roomy.refused (room : b.Roomy) (h : b.perform now call = (.error e, b')) :
    (b.Overlong call → e = .bufferFull ∧ b' = b.reset) ∧ (¬ b.Overlong call → b' = b) := by
  have changed := perform_eq_error h
  rw [← drops_iff_overlong room h]
  constructor
  · intro drops
    rw [if_pos drops] at changed
    unfold Call.drops at drops
    split at drops
    next => exact ⟨rfl, changed⟩
    next => contradiction
  · intro kept
    rwa [if_neg kept] at changed

end

/-- A refused request changes nothing. In whatever way a builder has come about, a request that it
refuses leaves its text, its room and its phase, and all later requests are answered as if the
refused one had not been made. Only a measurement that is larger than a record may be also drops
what was written. Memory is taken as granted here, as in `append`; what a refusal of memory leaves is
said of `appendWithin`. -/
theorem refusal_changes_nothing {capacity : Nat} {b₀ b' : Builder} {now : Int64} {request : Request}
    {e : RecordError} (opened : withCapacity capacity = .ok b₀) (earlier : List (Int64 × Request))
    (refused : (b₀.after earlier).respond now request = (.error e, b')) :
    ((b₀.after earlier).Overlong request.effect →
      e = .bufferFull ∧ b' = (b₀.after earlier).reset) ∧
    (¬ (b₀.after earlier).Overlong request.effect →
      b' = b₀.after earlier ∧
      ∀ later, (b₀.after earlier).answers ((now, request) :: later) =
        (.error e, b₀.after earlier) :: (b₀.after earlier).answers later) := by
  have room := (withCapacity_roomy opened).after earlier
  obtain ⟨dropped, kept⟩ := room.refused (respond_eq_error refused)
  refine ⟨dropped, fun fits => ?_⟩
  cases kept fits
  exact ⟨rfl, fun later => by rw [answers, refused]⟩

/-- A text that spans lines, in a record that was begun after another one had been completed. -/
theorem brokenText_changes_nothing :
    let earlier : List (Int64 × Request) :=
      [(1, .call (.setMeasurement "m")), (1, .call (.addField "v" (.integer 1))), (2, .copy),
        (3, .call .reset), (3, .call (.setMeasurement "n"))]
    let request : Request := .call (.addField "w" (.text "a\nb"))
    let b := ({ capacity := 64 } : Builder).after earlier
    withCapacity 1 = .ok { capacity := 64 } ∧
      b.respond 4 request = (.error .invalidParameter, b) ∧ ¬ b.Overlong request.effect ∧
      ∀ later, b.answers ((4, request) :: later) =
        (.error .invalidParameter, b) :: b.answers later := by
  intro earlier request b
  have opened : withCapacity 1 = .ok { capacity := 64 } := rfl
  have refused : b.respond 4 request = (.error .invalidParameter, b) := by decide +kernel
  have fits : ¬ b.Overlong request.effect := id
  exact ⟨opened, refused, fits, ((refusal_changes_nothing opened earlier refused).2 fits).2⟩

/-- A name of as many letters as are wanted. -/
def longName (length : Nat) : String :=
  String.ofList (List.replicate length 'a')

theorem utf8ByteSize_longName (length : Nat) : (longName length).utf8ByteSize = length := by
  induction length with
  | zero => rfl
  | succ length ih =>
    rw [longName, List.replicate_succ', String.ofList_append, String.utf8ByteSize_append]
    exact congrArg (· + 1) ih

theorem isMeasurement_longName {length : Nat} (pos : 0 < length) :
    Name.isMeasurement (longName length) = true := by
  obtain ⟨rest, rfl⟩ := Nat.exists_eq_succ_of_ne_zero pos.ne'
  have letter : Name.isMeasurementChar 'a' = true := rfl
  simp [Name.isMeasurement, longName, List.replicate_succ, letter]

/-- A measurement that is one byte larger than a record may be is refused, and drops the one that
was written before: the builder has no measurement any more, and a field that it would have taken
is refused. -/
theorem overlongName_drops :
    let b := ({} : Builder).after [(1, .call (.setMeasurement "m"))]
    let field : Request := .call (.addField "v" (.integer 1))
    withCapacity 1024 = .ok {} ∧
      b.respond 1 (.call (.setMeasurement (longName (maxSize + 1)))) =
        (.error .bufferFull, b.reset) ∧
      b.text = "m" ∧ b.validate = .error .invalidState ∧
      b.reset.text = "" ∧ b.reset.validate = .error .invalidMeasurement ∧
      (b.respond 1 field).1 = .ok none ∧ (b.reset.respond 1 field).1 = .error .invalidState := by
  intro b field
  have opened : withCapacity 1024 = .ok {} := rfl
  have long : b.Overlong (.setMeasurement (longName (maxSize + 1))) :=
    ⟨by decide +kernel, isMeasurement_longName (Nat.succ_pos _),
      (utf8ByteSize_longName (maxSize + 1)).symm ▸ Nat.lt_succ_self _⟩
  have refused := setMeasurement_overlong ((withCapacity_roomy opened).after _) long
  refine ⟨opened, ?_, by decide +kernel, by decide +kernel, rfl, rfl, by decide +kernel,
    by decide +kernel⟩
  rw [respond, perform, refused]
  rfl

end TelemetryRelay.Builder
