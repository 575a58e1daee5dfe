import TelemetryRelay.Proofs.Record.Effects

namespace TelemetryRelay.Builder

/-- What can be asked of a builder. -/
inductive Request where
  | call (call : Call)
  | copy

/-- The call that has the same effect on the builder. -/
def Request.effect : Request → Call
  | .call made => made
  | .copy => .finalize

/-- What a request hands out when it is accepted, from the builder as it is then. -/
def Request.handout (request : Request) (b : Builder) : Option Record :=
  match request with
  | .call _ => none
  | .copy => some ⟨b.text⟩

/-- Answers a request while the clock shows `now`, with the record if one was asked for. -/
def respond (now : Int64) (b : Builder) : Request → Reply (Option Record)
  | .call call => ((b.perform now call).1.map fun _ => none, (b.perform now call).2)
  | .copy => ((b.copy now).1.map some, (b.copy now).2)

/-- The answer to each of the requests, with the builder after it. -/
def answers (b : Builder) : List (Int64 × Request) → List (Reply (Option Record))
  | [] => []
  | (now, request) :: later =>
    b.respond now request :: (b.respond now request).2.answers later

/-- The builder after all the requests. -/
def after (b : Builder) (requests : List (Int64 × Request)) : Builder :=
  requests.foldl (fun b entry => (b.respond entry.1 entry.2).2) b

section
variable {b b' : Builder} {now : Int64}

theorem copy_eq (b : Builder) (now : Int64) :
    b.copy now = ((b.finalize now).1.map fun _ => ⟨(b.finalize now).2.text⟩,
      (b.finalize now).2) := by
  unfold copy
  split
  next done => simp [done, Except.map]
  next done => simp [done, Except.map]

theorem respond_eq (b : Builder) (now : Int64) (request : Request) :
    b.respond now request =
      ((b.perform now request.effect).1.map fun _ =>
          request.handout (b.perform now request.effect).2,
        (b.perform now request.effect).2) := by
  cases request with
  | call call => rfl
  | copy =>
    rw [respond, copy_eq, Request.effect, perform]
    cases (b.finalize now).1 <;> rfl

theorem respond_snd (b : Builder) (now : Int64) (request : Request) :
    (b.respond now request).2 = (b.perform now request.effect).2 := by
  rw [respond_eq]

theorem respond_eq_ok {request : Request} {answer : Option Record}
    (h : b.respond now request = (.ok answer, b')) :
    b.perform now request.effect = (.ok (), b') := by
  rw [respond_eq] at h
  obtain ⟨answered, same⟩ := Prod.mk.inj h
  obtain ⟨_, done, _⟩ := map_eq_ok_iff.mp answered
  exact Prod.ext done same

theorem respond_eq_error {request : Request} {e : RecordError}
    (h : b.respond now request = (.error e, b')) :
    b.perform now request.effect = (.error e, b') := by
  rw [respond_eq] at h
  obtain ⟨refused, same⟩ := Prod.mk.inj h
  exact Prod.ext (map_eq_error_iff.mp refused) same

theorem Roomy.after (room : b.Roomy) (requests : List (Int64 × Request)) :
    (b.after requests).Roomy := by
  induction requests generalizing b with
  | nil => exact room
  | cons entry later ih =>
    have next := room.perform entry.1 entry.2.effect
    rw [← respond_snd] at next
    exact ih next

end
end TelemetryRelay.Builder
