import Mathlib.Data.List.Forall2
import TelemetryRelay.Proofs.Record.Requests

namespace TelemetryRelay.Builder

/-- Two builders that differ in their room only. -/
structure Alike (b c : Builder) : Prop where
  text : b.text = c.text
  phase : b.phase = c.phase
  left : b.Roomy
  right : c.Roomy

/-- The same answer, and builders that are alike. -/
def Reply.Alike {α : Type} (r s : Reply α) : Prop :=
  r.1 = s.1 ∧ r.2.Alike s.2

section
variable {b c : Builder}

theorem Alike.eq (alike : b.Alike c) : b = { c with capacity := b.capacity } := by
  obtain ⟨text, capacity, phase⟩ := b
  cases alike.text
  cases alike.phase
  rfl

theorem Alike.objection_eq (alike : b.Alike c) (call : Call) :
    b.objection call = c.objection call := by
  rw [alike.eq]
  cases call <;> rfl

theorem Alike.produced_eq (alike : b.Alike c) (now : Int64) (call : Call) :
    b.produced now call = c.produced now call := by
  rw [alike.eq]
  cases call <;> rfl

theorem Alike.validate_eq (alike : b.Alike c) : b.validate = c.validate := by
  rw [alike.eq]
  rfl

theorem Alike.dropped (alike : b.Alike c) (drops : Bool) :
    (if drops then b.reset else b).Alike (if drops then c.reset else c) := by
  cases drops with
  | true => exact ⟨rfl, rfl, alike.left.reset, alike.right.reset⟩
  | false => exact alike

/-- Builders that are alike hold a text alike, or lack the room for it alike. -/
theorem Alike.written {kept kept' : Builder} (alike : b.Alike c) (kept_alike : kept.Alike kept')
    (text : String) (phase : Phase) :
    Reply.Alike (b.written text phase kept) (c.written text phase kept') := by
  unfold Builder.written
  split
  next fits =>
    exact ⟨rfl, rfl, rfl, alike.left.holds fits phase, alike.right.holds fits phase⟩
  next => exact ⟨rfl, kept_alike⟩

/-- A call is answered alike: the checks look at the phase, and the size that decides is that of the
text. -/
theorem Alike.perform (alike : b.Alike c) (now : Int64) (call : Call) :
    Reply.Alike (b.perform now call) (c.perform now call) := by
  rw [alike.left.perform_eq, alike.right.perform_eq, alike.objection_eq, alike.produced_eq]
  split
  next => exact ⟨rfl, alike⟩
  next => exact alike.written (alike.dropped _) _ _

theorem Alike.respond (alike : b.Alike c) (now : Int64) (request : Request) :
    Reply.Alike (b.respond now request) (c.respond now request) := by
  obtain ⟨answer, after⟩ := alike.perform now request.effect
  rw [respond_eq, respond_eq]
  refine ⟨?_, after⟩
  cases request with
  | call call => exact congrArg (Except.map _) answer
  | copy =>
    dsimp only [Request.handout]
    rw [after.text, answer]

theorem Alike.build_eq (alike : b.Alike c) (now : Int64) : b.build now = c.build now := by
  obtain ⟨answer, after⟩ := alike.perform now .finalize
  dsimp only [Builder.perform] at answer after
  rw [build, build, copy_eq, copy_eq, answer, after.text]

theorem Alike.answers (alike : b.Alike c) (requests : List (Int64 × Request)) :
    List.Forall₂ Reply.Alike (b.answers requests) (c.answers requests) ∧
      (b.after requests).Alike (c.after requests) := by
  induction requests generalizing b c with
  | nil => exact ⟨.nil, alike⟩
  | cons entry later ih =>
    have first := alike.respond entry.1 entry.2
    obtain ⟨replies, after⟩ := ih first.2
    exact ⟨.cons first replies, after⟩

/-- A request gives no room back. -/
theorem Roomy.capacity_le (room : b.Roomy) (now : Int64) (call : Call) :
    b.capacity ≤ (b.perform now call).2.capacity := by
  rw [room.perform_eq]
  split
  next => exact Nat.le_refl _
  next =>
    unfold Builder.written
    split
    next fits => exact (roomFor_bounds room.pos room.greatest fits).1
    next => split <;> exact Nat.le_refl _

theorem Roomy.respond_objected (room : b.Roomy) {now : Int64} {request : Request} {e : RecordError}
    (objected : b.objection request.effect = some e) : b.respond now request = (.error e, b) := by
  rw [respond_eq, room.perform_eq, objected]
  rfl

/-- To a request that has passed its checks, the answer is decided by the size of the text. -/
theorem Roomy.respond_passed (room : b.Roomy) {now : Int64} {request : Request}
    (passed : b.objection request.effect = none) :
    let text := b.produced now request.effect
    ((b.respond now request).1 = .error .bufferFull ↔ maxSize < text.utf8ByteSize) ∧
      (text.utf8ByteSize ≤ maxSize →
        ∃ answer b', b.respond now request = (.ok answer, b') ∧ b'.text = text) := by
  intro text
  rw [respond_eq, room.perform_eq, passed]
  dsimp only [Builder.written]
  by_cases fits : text.utf8ByteSize ≤ maxSize
  · rw [if_pos fits]
    exact ⟨by simp [Except.map, fits], fun _ => ⟨_, _, rfl, rfl⟩⟩
  · rw [if_neg fits]
    exact ⟨by simp [Except.map, Nat.lt_of_not_le fits], fun within => absurd within fits⟩

end

/-- The same answer, with the same text at the same phase. -/
def Reply.Same {α : Type} (r s : Reply α) : Prop :=
  r.1 = s.1 ∧ r.2.text = s.2.text ∧ r.2.phase = s.2.phase

theorem withCapacity_of_le {capacity : Nat} (le : capacity ≤ maxSize) :
    withCapacity capacity = .ok { capacity := max capacity minCapacity } :=
  if_neg (Nat.not_lt.mpr le)

/-- The capacity with which a builder is opened never shows, and the greatest size of a record is
exact. Any capacity up to that size is admitted. Builders opened with two of them give the same
answers to the same requests, with the same text at the same phase after each of them. What passes
the checks of the phase, the name and the value is refused for want of room exactly if the text that
it would produce is larger than a record may be, and otherwise the builder holds that text. At any
time the text fits in the room, the room keeps its bounds, and no request gives any of it back. -/
theorem capacity_never_shows {first second : Nat} (first_le : first ≤ maxSize)
    (second_le : second ≤ maxSize) :
    ∃ b₀ c₀, withCapacity first = .ok b₀ ∧ withCapacity second = .ok c₀ ∧
      ∀ requests : List (Int64 × Request),
        let b := b₀.after requests
        let c := c₀.after requests
        (List.Forall₂ Reply.Same (b₀.answers requests) (c₀.answers requests) ∧
          b.validate = c.validate ∧ ∀ now, b.build now = c.build now) ∧
        (∀ now request,
          let text := b.produced now request.effect
          (∀ e, b.objection request.effect = some e → b.respond now request = (.error e, b)) ∧
          (b.objection request.effect = none →
            ((b.respond now request).1 = .error .bufferFull ↔ maxSize < text.utf8ByteSize) ∧
            (text.utf8ByteSize ≤ maxSize →
              ∃ answer b', b.respond now request = (.ok answer, b') ∧ b'.text = text))) ∧
        (b.size ≤ b.capacity ∧ b.capacity ≤ maxSize ∧ minCapacity ≤ b.capacity) ∧
        ∀ now request, b.capacity ≤ (b.respond now request).2.capacity := by
  have opened := withCapacity_of_le first_le
  have opened' := withCapacity_of_le second_le
  refine ⟨_, _, opened, opened', fun requests => ?_⟩
  intro b c
  have start : Alike { capacity := max first minCapacity } { capacity := max second minCapacity } :=
    ⟨rfl, rfl, withCapacity_roomy opened, withCapacity_roomy opened'⟩
  obtain ⟨replies, alike⟩ := start.answers requests
  have room : b.Roomy := alike.left
  refine ⟨⟨replies.imp fun _ _ same => ⟨same.1, same.2.text, same.2.phase⟩, alike.validate_eq,
      alike.build_eq⟩,
    fun now request => ⟨fun e => room.respond_objected, room.respond_passed⟩,
    ⟨room.fits, room.greatest, room.least⟩, fun now request => ?_⟩
  rw [respond_snd]
  exact room.capacity_le now request.effect

/-- A record with a long text in it, a tag that comes too late, and the copy of the record. -/
def longRequests : List (Int64 × Request) :=
  [(0, .call (.setMeasurement "m")),
    (0, .call (.addField "f" (.text (String.ofList (List.replicate 110 'x'))))),
    (0, .call (.addTag "late" "x")), (7, .copy)]

theorem unevenCapacity_never_shows :
    ∃ b₀ c₀, withCapacity 100 = .ok b₀ ∧ withCapacity 7 = .ok c₀ ∧
      (b₀.after longRequests).capacity = 200 ∧ (c₀.after longRequests).capacity = 128 ∧
      List.Forall₂ Reply.Same (b₀.answers longRequests) (c₀.answers longRequests) := by
  obtain ⟨b₀, c₀, opened, opened', shows⟩ :=
    capacity_never_shows (show 100 ≤ maxSize by decide) (show 7 ≤ maxSize by decide)
  obtain ⟨⟨same, _⟩, _⟩ := shows longRequests
  refine ⟨b₀, c₀, opened, opened', ?_, ?_, same⟩
  · cases opened
    decide +kernel
  · cases opened'
    decide +kernel

end TelemetryRelay.Builder
