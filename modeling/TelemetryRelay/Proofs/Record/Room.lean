import TelemetryRelay.Proofs.Record.Draft

namespace TelemetryRelay.Builder

theorem le_doubled (capacity required : Nat) : capacity ≤ doubled capacity required := by
  fun_induction doubled capacity required with
  | case1 capacity more ih => omega
  | case2 capacity enough => exact Nat.le_refl _

theorem required_le_doubled {capacity : Nat} (pos : 0 < capacity) (required : Nat) :
    required ≤ doubled capacity required := by
  fun_induction doubled capacity required with
  | case1 capacity more ih => exact ih (by omega)
  | case2 capacity enough => omega

/-- The room that a builder has when `required` bytes fit. -/
def roomFor (capacity required : Nat) : Nat :=
  if required ≤ capacity then capacity else min (doubled (capacity * 2) required) maxSize

theorem roomFor_bounds {capacity required : Nat} (pos : 0 < capacity) (le : capacity ≤ maxSize)
    (fits : required ≤ maxSize) :
    capacity ≤ roomFor capacity required ∧ required ≤ roomFor capacity required ∧
      roomFor capacity required ≤ maxSize := by
  have more := le_doubled (capacity * 2) required
  have enough := required_le_doubled (show 0 < capacity * 2 by omega) required
  unfold roomFor
  split <;> omega

theorem grown_fits {capacity required : Nat} (fits : required ≤ maxSize) :
    grown capacity required = .ok (roomFor capacity required) := by
  unfold grown roomFor
  split
  next => rfl
  next =>
    by_cases small : doubled (capacity * 2) required ≤ maxSize
    · simp [small]
    · simp [small, Nat.le_of_not_le small]

theorem grown_full {capacity required : Nat} (pos : 0 < capacity) (le : capacity ≤ maxSize)
    (full : maxSize < required) : grown capacity required = .error .bufferFull := by
  have enough := required_le_doubled (show 0 < capacity * 2 by omega) required
  have short : ¬ required ≤ capacity := by omega
  have large : ¬ doubled (capacity * 2) required ≤ maxSize := by omega
  simp only [grown, short, large, Nat.not_le.mpr full, ↓reduceIte]

/-- A builder has at least the least room and at most the greatest, and its text fits in it. -/
structure Roomy (b : Builder) : Prop where
  least : minCapacity ≤ b.capacity
  greatest : b.capacity ≤ maxSize
  fits : b.size ≤ b.capacity

theorem withCapacity_roomy {capacity : Nat} {b : Builder} (h : withCapacity capacity = .ok b) :
    b.Roomy := by
  unfold withCapacity at h
  split at h
  next => contradiction
  next small =>
    cases h
    exact ⟨Nat.le_max_right _ _, Nat.max_le.mpr ⟨Nat.not_lt.mp small, by decide⟩, Nat.zero_le _⟩

section
variable {b : Builder} {text : String}

theorem Roomy.pos (room : b.Roomy) : 0 < b.capacity :=
  Nat.lt_of_lt_of_le (by decide) room.least

theorem Roomy.size_le (room : b.Roomy) : b.size ≤ maxSize :=
  Nat.le_trans room.fits room.greatest

theorem Roomy.reset (room : b.Roomy) : b.reset.Roomy :=
  ⟨room.least, room.greatest, Nat.zero_le _⟩

theorem Roomy.append_full (room : b.Roomy) (full : maxSize < b.size + text.utf8ByteSize) :
    b.append text = .error .bufferFull := by
  simp [append, grown_full room.pos room.greatest full, Except.map]

end
end TelemetryRelay.Builder
