import TelemetryRelay.Proofs.Record.Capacity
import TelemetryRelay.Proofs.Sampling.Composing

namespace TelemetryRelay

/-- Answers that are the same are both refusals or both acceptances. -/
theorem Builder.Reply.Alike.cases {r s : Builder.Reply Unit} (alike : r.Alike s) :
    (∃ e b c, r = (.error e, b) ∧ s = (.error e, c) ∧ b.Alike c) ∨
      ∃ b c, r = (.ok (), b) ∧ s = (.ok (), c) ∧ b.Alike c := by
  obtain ⟨answer, b⟩ := r
  obtain ⟨answer', c⟩ := s
  obtain ⟨same, after⟩ := alike
  cases same
  cases answer with
  | error e => exact .inl ⟨e, b, c, rfl, rfl, after⟩
  | ok _ => exact .inr ⟨b, c, rfl, rfl, after⟩

namespace Publisher

section
variable {b c : Builder}

theorem performAll_alike (alike : b.Alike c) (now : Int64) (calls : List Builder.Call) :
    Builder.Reply.Alike (performAll now b calls) (performAll now c calls) := by
  induction calls generalizing b c with
  | nil => exact ⟨rfl, alike⟩
  | cons call calls ih =>
    unfold performAll
    obtain ⟨e, b', c', left, right, after⟩ | ⟨b', c', left, right, after⟩ :=
      (alike.perform now call).cases
    · rw [left, right]
      exact ⟨rfl, after⟩
    · rw [left, right]
      exact ih after

/-- The channels that are left out, for want of a value or because it cannot be written, are left
out of both. -/
theorem addChannels_alike (alike : b.Alike c) (channels : List Channel) :
    Builder.Reply.Alike (addChannels b channels) (addChannels c channels) := by
  induction channels generalizing b c with
  | nil => exact ⟨rfl, alike⟩
  | cons channel rest ih =>
    unfold addChannels
    split
    next v _ _ =>
      have field : Builder.Reply.Alike (b.addField channel.id (.double v))
          (c.addField channel.id (.double v)) :=
        -- a field does not read the clock, so any time will do
        alike.perform 0 (.addField channel.id (.double v))
      obtain ⟨e, b', c', left, right, after⟩ | ⟨b', c', left, right, after⟩ := field.cases
      · rw [left, right]
        dsimp only
        split
        next => exact ih after
        next => exact ⟨rfl, after⟩
      · rw [left, right]
        exact ih after
    next => exact ih alike

end

/-- Two publishers of the same records; what is in the builders may differ. -/
structure Alike (p q : Publisher) : Prop where
  measurement : p.measurement = q.measurement
  sourceTag : p.sourceTag = q.sourceTag
  left : p.builder.Roomy
  right : q.builder.Roomy

section
variable {p q : Publisher}

/-- Writing begins with dropping what is there, so builders that differ are alike from then on. -/
theorem Alike.write (alike : p.Alike q) (now : Int64) (channels : List Channel)
    (fix : Option GpsFix) :
    Builder.Reply.Alike (p.write now channels fix) (q.write now channels fix) := by
  have empty : p.builder.reset.Alike q.builder.reset :=
    ⟨rfl, rfl, alike.left.reset, alike.right.reset⟩
  have begun : Builder.Reply.Alike
      (performAll now p.builder
        [.reset, .setMeasurement p.measurement, .addTag "source" p.sourceTag])
      (performAll now q.builder
        [.reset, .setMeasurement q.measurement, .addTag "source" q.sourceTag]) := by
    rw [alike.measurement, alike.sourceTag]
    exact performAll_alike empty now [.setMeasurement q.measurement, .addTag "source" q.sourceTag]
  unfold Publisher.write
  obtain ⟨e, b, c, left, right, after⟩ | ⟨b, c, left, right, after⟩ := begun.cases
  · rw [left, right]
    exact ⟨rfl, after⟩
  · rw [left, right]
    dsimp only
    obtain ⟨e, b', c', left, right, after⟩ | ⟨b', c', left, right, after⟩ :=
      (addChannels_alike after channels).cases
    · rw [left, right]
      exact ⟨rfl, after⟩
    · rw [left, right]
      exact performAll_alike after now _

theorem Alike.build_fst (alike : p.Alike q) (now : Int64) (channels : List Channel)
    (fix : Option GpsFix) : (p.build now channels fix).1 = (q.build now channels fix).1 := by
  obtain ⟨answer, after⟩ := alike.write now channels fix
  rw [Publisher.build_fst, Publisher.build_fst, answer, after.text]

/-- A build, whatever it comes to, leaves a publisher of the same records. -/
theorem Alike.built (alike : p.Alike q) (now : Int64) (channels : List Channel)
    (fix : Option GpsFix) : (p.build now channels fix).2.Alike q := by
  rw [build_publisher]
  exact ⟨alike.measurement, alike.sourceTag, (alike.write now channels fix).2.left, alike.right⟩

end

/-- What a record is built from, and the time at which it is built. -/
structure Occasion where
  now : Int64
  channels : List Channel
  fix : Option GpsFix

/-- The publisher after earlier builds. -/
def after (p : Publisher) (earlier : List Occasion) : Publisher :=
  earlier.foldl (fun p occasion => (p.build occasion.now occasion.channels occasion.fix).2) p

theorem Alike.after {p q : Publisher} (alike : p.Alike q) (earlier : List Occasion) :
    (p.after earlier).Alike q := by
  induction earlier generalizing p with
  | nil => exact alike
  | cons occasion later ih =>
    exact ih (alike.built occasion.now occasion.channels occasion.fix)

/-- After any builds, whatever they were made from and whatever they came to, the next build comes
to what it would come to if the publisher were new: the same record or the same error. -/
theorem build_forgets (s : SamplingSettings) (earlier : List Occasion) (now : Int64)
    (channels : List Channel) (fix : Option GpsFix) :
    (((ofSettings s).after earlier).build now channels fix).1 =
      ((ofSettings s).build now channels fix).1 := by
  have new : (ofSettings s).builder.Roomy :=
    Builder.withCapacity_roomy (show Builder.withCapacity 1024 = .ok {} from rfl)
  exact (Alike.after ⟨rfl, rfl, new, new⟩ earlier).build_fst now channels fix

end Publisher
end TelemetryRelay
