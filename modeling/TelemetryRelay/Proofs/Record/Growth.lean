import Mathlib.Algebra.Order.Ring.Nat
import Mathlib.Order.Bounds.Basic
import TelemetryRelay.Proofs.Record.Requests
import TelemetryRelay.Proofs.Text.Offsets
import TelemetryRelay.Record.Allocation

namespace TelemetryRelay.Builder

/-- The capacities that come from doubling at least once, and are enough. -/
def enough (capacity required : Nat) : Set Nat :=
  { n | ∃ k, 1 ≤ k ∧ n = capacity * 2 ^ k ∧ required ≤ n }

/-- Once it has been doubled, a capacity is enough after `k` more doublings, but not before. -/
structure DoublesTo (capacity required k : Nat) : Prop where
  short : ∀ j, j < k → capacity * 2 ^ (j + 1) < required
  fits : required ≤ capacity * 2 ^ (k + 1)

theorem DoublesTo.isLeast {capacity required k : Nat} (h : DoublesTo capacity required k) :
    IsLeast (enough capacity required) (capacity * 2 ^ (k + 1)) := by
  refine ⟨⟨k + 1, by omega, rfl, h.fits⟩, ?_⟩
  rintro n ⟨j, once, rfl, large⟩
  obtain ⟨i, rfl⟩ := Nat.exists_eq_add_of_le' once
  have later : k ≤ i := by
    by_contra before
    have small := h.short i (by omega)
    omega
  exact Nat.mul_le_mul_left _ (Nat.pow_le_pow_right (by decide) (by omega))

theorem mul_two_pow (capacity k : Nat) : capacity * 2 * 2 ^ k = capacity * 2 ^ (k + 1) := by
  rw [pow_succ', mul_assoc]

theorem exists_doubled {capacity : Nat} (pos : 0 < capacity) (required : Nat) :
    ∃ k, doubled capacity required = capacity * 2 ^ k ∧
      ∀ j, j < k → capacity * 2 ^ j < required := by
  fun_induction doubled capacity required with
  | case1 capacity more ih =>
    obtain ⟨k, eq, short⟩ := ih (by omega)
    refine ⟨k + 1, by rw [eq, mul_two_pow], fun j before => ?_⟩
    cases j with
    | zero => simpa using more.2
    | succ j =>
      rw [← mul_two_pow]
      exact short j (by omega)
  | case2 capacity stop => exact ⟨0, by simp, by simp⟩

theorem exists_doublesTo {capacity : Nat} (pos : 0 < capacity) (required : Nat) :
    ∃ k, DoublesTo capacity required k ∧
      doubled (capacity * 2) required = capacity * 2 ^ (k + 1) := by
  obtain ⟨k, eq, short⟩ := exists_doubled (show 0 < capacity * 2 by omega) required
  have fits := required_le_doubled (show 0 < capacity * 2 by omega) required
  rw [eq] at fits
  simp only [mul_two_pow] at eq short fits
  exact ⟨k, ⟨short, fits⟩, eq⟩

theorem ofNat_double (capacity : Nat) :
    UInt64.ofNat capacity * 2 = UInt64.ofNat (capacity * 2) :=
  (UInt64.ofNat_mul capacity 2).symm

/-- As long as the last capacity is a word, none on the way wraps around. -/
theorem doublings?_eq {k turns capacity required : Nat}
    (short : ∀ j, j < k → capacity * 2 ^ j < required) (fits : required ≤ capacity * 2 ^ k)
    (word : capacity * 2 ^ k < UInt64.size) (more : k < turns) :
    doublings? (.ofNat required) turns (.ofNat capacity) =
      some ((List.range (k + 1)).map fun j => .ofNat (capacity * 2 ^ j)) := by
  induction k generalizing capacity turns with
  | zero =>
    obtain ⟨turns, rfl⟩ := Nat.exists_eq_add_of_le' more
    rw [pow_zero, mul_one] at fits word
    have stop : ¬ UInt64.ofNat capacity < .ofNat required := by
      rw [UInt64.ofNat_lt_iff_lt word (by omega)]
      omega
    simp [doublings?, stop]
  | succ k ih =>
    obtain ⟨turns, rfl⟩ := Nat.exists_eq_add_of_le' (show 1 ≤ turns by omega)
    have small : capacity < required := by simpa using short 0 (by omega)
    have go : UInt64.ofNat capacity < .ofNat required := by
      rwa [UInt64.ofNat_lt_iff_lt (by omega) (by omega)]
    have later : doublings? (.ofNat required) turns (.ofNat (capacity * 2)) =
        some ((List.range (k + 1)).map fun j => .ofNat (capacity * 2 * 2 ^ j)) := by
      simp only [← mul_two_pow] at fits word
      refine ih (fun j before => ?_) fits word (by omega)
      rw [mul_two_pow]
      exact short (j + 1) (by omega)
    rw [doublings?, if_pos go, ofNat_double, later, List.range_succ_eq_map (n := k + 1)]
    simp [mul_two_pow, Function.comp_def]

/-- The size of the text if another one is written behind it. -/
def sizeWith (b : Builder) (text : String) : Nat :=
  b.size + text.utf8ByteSize

/-- The capacity that a builder has after `k + 1` doublings, as far as it may grow. -/
def grownTo (b : Builder) (k : Nat) : Nat :=
  min maxSize (b.capacity * 2 ^ (k + 1))

section
variable {b : Builder} {text : String} {k turns : Nat}

theorem Roomy.sizeWith_lt (room : b.Roomy) (short : text.utf8ByteSize < 2 ^ 62) :
    b.sizeWith text < 2 ^ 63 := by
  have size_le := room.size_le
  simp only [maxSize] at size_le
  unfold sizeWith
  omega

/-- The last capacity is at most twice the required one, or twice the first one. -/
theorem Roomy.capacity_lt (room : b.Roomy) (short : text.utf8ByteSize < 2 ^ 62)
    (found : DoublesTo b.capacity (b.sizeWith text) k) :
    b.capacity * 2 ^ (k + 1) < 2 ^ 64 := by
  cases k with
  | zero =>
    have greatest := room.greatest
    simp only [maxSize] at greatest
    omega
  | succ k =>
    have required := room.sizeWith_lt short
    have before := found.short k (by omega)
    rw [pow_succ, ← mul_assoc]
    omega

theorem Roomy.size_le_grownTo (room : b.Roomy) (k : Nat) : b.size ≤ b.grownTo k := by
  have double : b.capacity ≤ b.capacity * 2 ^ (k + 1) :=
    Nat.le_mul_of_pos_right _ (Nat.two_pow_pos _)
  exact le_min room.size_le (Nat.le_trans room.fits double)

theorem Roomy.doublings?_eq (room : b.Roomy) (short : text.utf8ByteSize < 2 ^ 62)
    (found : DoublesTo b.capacity (b.sizeWith text) k) (more : k < turns) :
    doublings? (.ofNat (b.sizeWith text)) turns (.ofNat b.capacity * 2) =
      some ((List.range (k + 1)).map fun j => .ofNat (b.capacity * 2 ^ (j + 1))) := by
  obtain ⟨before, fits⟩ := found
  have word := room.capacity_lt short ⟨before, fits⟩
  simp only [← mul_two_pow] at before fits word ⊢
  rw [ofNat_double]
  exact Builder.doublings?_eq before fits word more

/-- In what is asked for nothing wraps around, neither upwards nor downwards. -/
theorem Roomy.demand?_eq (room : b.Roomy) (short : text.utf8ByteSize < 2 ^ 62)
    (found : DoublesTo b.capacity (b.sizeWith text) k) (more : k < turns) :
    demand? turns (.ofNat b.capacity) (.ofNat b.size) (.ofNat text.utf8ByteSize) = some (
      if b.sizeWith text ≤ b.capacity then .ok none
      else if maxSize < b.sizeWith text then .error .bufferFull
      else .ok (some ⟨.ofNat (b.grownTo k), .ofNat (b.grownTo k - b.size)⟩)) := by
  have full : maxSize < UInt64.size := by decide
  have old := Nat.lt_of_le_of_lt room.greatest full
  have size_le : b.size ≤ b.sizeWith text := Nat.le_add_right _ _
  have required : b.sizeWith text < UInt64.size :=
    Nat.lt_trans (room.sizeWith_lt short) (by decide)
  have no_overflow : ¬ UInt64.ofNat (b.sizeWith text) < .ofNat b.size := by
    rw [UInt64.ofNat_lt_iff_lt required (by omega)]
    omega
  have last : (some ((List.range (k + 1)).map fun j =>
      UInt64.ofNat (b.capacity * 2 ^ (j + 1)))).bind List.getLast? =
      some (.ofNat (b.capacity * 2 ^ (k + 1))) := by
    simp [List.getLast?_range]
  have size_le_grownTo := room.size_le_grownTo k
  have fits := found.fits
  unfold demand?
  rw [← UInt64.ofNat_add, ← sizeWith, if_neg no_overflow, room.doublings?_eq short found more, last,
    Option.map_some]
  simp only [UInt64.ofNat_le_iff_le required old, UInt64.ofNat_le_iff_le required full,
    UInt64.ofNat_le_iff_le (room.capacity_lt short found) full]
  rw [← apply_ite some]
  congr 2
  rw [UInt64.ofNat_sub size_le_grownTo, grownTo]
  by_cases small : b.capacity * 2 ^ (k + 1) ≤ maxSize
  · rw [if_pos small, if_neg (by omega), min_eq_right small]
  · rw [if_neg small, min_eq_left (by omega)]
    by_cases large : maxSize < b.sizeWith text
    · rw [if_neg (by omega), if_pos large]
    · rw [if_pos (by omega), if_neg large]

/-- What writing in words comes to is decided by the sizes, and by the bytes that are granted. -/
theorem Roomy.appendWithin_eq (room : b.Roomy) (short : text.utf8ByteSize < 2 ^ 62)
    (found : DoublesTo b.capacity (b.sizeWith text) k) (more : k < turns)
    (grants : UInt64 → Bool) :
    b.appendWithin turns grants text = some (
      if b.sizeWith text ≤ b.capacity then (.ok (), { b with text := b.text ++ text })
      else if maxSize < b.sizeWith text then (.error .bufferFull, b)
      else if grants (.ofNat (b.grownTo k - b.size)) then
        (.ok (), { b with text := b.text ++ text, capacity := b.grownTo k })
      else (.error .outOfMemory, b)) := by
  have word : (UInt64.ofNat (b.grownTo k)).toNat = b.grownTo k :=
    UInt64.toNat_ofNat_of_lt' (Nat.lt_of_le_of_lt (Nat.min_le_left _ _) (by decide))
  rw [appendWithin, room.demand?_eq short found more, Option.map_some]
  by_cases old : b.sizeWith text ≤ b.capacity
  · simp only [if_pos old]
  · simp only [if_neg old]
    by_cases large : maxSize < b.sizeWith text
    · simp only [if_pos large]
    · simp only [if_neg large, word]

/-- If everything is granted, writing in words is writing. -/
theorem Roomy.appendWithin_granted (room : b.Roomy) (short : text.utf8ByteSize < 2 ^ 62)
    (found : DoublesTo b.capacity (b.sizeWith text) k)
    (last : doubled (b.capacity * 2) (b.sizeWith text) = b.capacity * 2 ^ (k + 1))
    (more : k < turns) :
    b.appendWithin turns (fun _ => true) text = some (b.orKeep (b.append text)) := by
  rw [room.appendWithin_eq short found more]
  congr 1
  by_cases large : maxSize < b.sizeWith text
  · have greatest := room.greatest
    rw [if_neg (by omega), if_pos large, room.append_full large, orKeep]
  · rw [append, ← sizeWith, grown_fits (by omega), roomFor, last, min_comm, ← grownTo]
    by_cases old : b.sizeWith text ≤ b.capacity
    · rw [if_pos old, if_pos old]
      rfl
    · rw [if_neg old, if_neg old, if_neg large]
      rfl

end

/-- Whatever was asked of a builder before, room is made for a further text with the least number of
doublings, and no capacity on the way is beyond the words. If the text fits, the capacity stays; if
not, it is the last of these capacities, or the greatest size. If the text is too large, or the bytes
are not granted, the builder stays as it is. A request that is refused bytes comes to a reset or to
nothing, so that the earlier ones may be taken to have been granted theirs. -/
theorem append_takes_least_doubling {start : Nat} {opened : Builder}
    (accepted : withCapacity start = .ok opened) {earlier : List (Int64 × Request)} {b : Builder}
    (reached : opened.after earlier = b) {text : String} (short : text.utf8ByteSize < 2 ^ 62) :
    ∃ k,
      IsLeast (enough b.capacity (b.sizeWith text)) (b.capacity * 2 ^ (k + 1)) ∧
      b.capacity * 2 ^ (k + 1) < 2 ^ 64 ∧ b.size ≤ b.grownTo k ∧
      ∀ turns, k < turns →
        (doublings? (.ofNat (b.sizeWith text)) turns (.ofNat b.capacity * 2)).map
            (List.map UInt64.toNat) =
          some ((List.range (k + 1)).map fun j => b.capacity * 2 ^ (j + 1)) ∧
        b.appendWithin turns (fun _ => true) text = some (b.orKeep (b.append text)) ∧
        ∀ grants, ∃ answer b', b.appendWithin turns grants text = some (answer, b') ∧
          answer = (
            if b.sizeWith text ≤ b.capacity then .ok ()
            else if maxSize < b.sizeWith text then .error .bufferFull
            else if grants (.ofNat (b.grownTo k - b.size)) then .ok ()
            else .error .outOfMemory) ∧
          (answer = .ok () → b' = { b with
            text := b.text ++ text
            capacity := if b.sizeWith text ≤ b.capacity then b.capacity else b.grownTo k }) ∧
          (answer ≠ .ok () → b' = b) := by
  have room : b.Roomy := reached ▸ (withCapacity_roomy accepted).after earlier
  obtain ⟨k, found, last⟩ := exists_doublesTo room.pos (b.sizeWith text)
  have word := room.capacity_lt short found
  refine ⟨k, found.isLeast, word, room.size_le_grownTo k, fun turns more => ⟨?_,
    room.appendWithin_granted short found last more, fun grants => ?_⟩⟩
  · rw [room.doublings?_eq short found more, Option.map_some, List.map_map]
    congr 1
    refine List.map_congr_left fun j mem => UInt64.toNat_ofNat_of_lt' ?_
    have before : b.capacity * 2 ^ (j + 1) ≤ b.capacity * 2 ^ (k + 1) :=
      Nat.mul_le_mul_left _ (Nat.pow_le_pow_right (by decide) (List.mem_range.mp mem))
    exact Nat.lt_of_le_of_lt before word
  · rw [room.appendWithin_eq short found more]
    by_cases old : b.sizeWith text ≤ b.capacity
    · exact ⟨_, _, congrArg some (if_pos old), by simp [old]⟩
    · rw [if_neg old]
      by_cases large : maxSize < b.sizeWith text
      · exact ⟨_, _, congrArg some (if_pos large), by simp [old, large]⟩
      · rw [if_neg large]
        cases granted : grants (.ofNat (b.grownTo k - b.size)) with
        | true => exact ⟨_, _, rfl, by simp [old, large]⟩
        | false => exact ⟨_, _, rfl, by simp [old, large]⟩

/-- A builder of which the capacity is no power of two, with a measurement. -/
def unevenBuilder : Builder :=
  { text := "m", capacity := 100, phase := .named }

/-- A text of `count` bytes. -/
def textOf (count : Nat) : String :=
  String.ofList (List.replicate count 'x')

theorem size_textOf (count : Nat) : (textOf count).utf8ByteSize = count := by
  have width : 'x'.utf8Size = 1 := rfl
  rw [Utf8.utf8ByteSize_eq, textOf, String.toList_ofList, Utf8.size_replicate, width, mul_one]

theorem unevenBuilder_takes_least_doubling :
    withCapacity 100 = .ok { capacity := 100 } ∧
      Builder.after { capacity := 100 } [(0, .call (.setMeasurement "m"))] = unevenBuilder ∧
      (textOf 300).utf8ByteSize < 2 ^ 62 ∧
      ∃ k, ∀ turns, k < turns →
        unevenBuilder.appendWithin turns (fun _ => true) (textOf 300) =
            some (.ok (), { unevenBuilder with text := "m" ++ textOf 300, capacity := 400 }) ∧
          unevenBuilder.appendWithin turns (fun _ => false) (textOf 300) =
            some (.error .outOfMemory, unevenBuilder) := by
  have accepted : withCapacity 100 = .ok { capacity := 100 } := rfl
  have reached : Builder.after { capacity := 100 } [(0, .call (.setMeasurement "m"))] =
      unevenBuilder := by decide
  have short : (textOf 300).utf8ByteSize < 2 ^ 62 := by rw [size_textOf]; decide
  obtain ⟨k, least, -, -, runs⟩ := append_takes_least_doubling accepted reached short
  have required : unevenBuilder.sizeWith (textOf 300) = 301 := by
    rw [sizeWith, size_textOf]
    rfl
  have twice : DoublesTo unevenBuilder.capacity 301 1 := ⟨by decide, by decide⟩
  rw [required] at least runs
  have capacity : unevenBuilder.grownTo k = 400 := by
    rw [grownTo, least.unique twice.isLeast]
    rfl
  refine ⟨accepted, reached, short, k, fun turns more => ?_⟩
  obtain ⟨-, -, outcome⟩ := runs turns more
  have larger : ¬ 301 ≤ unevenBuilder.capacity := by decide
  have allowed : ¬ maxSize < 301 := by decide
  simp only [if_neg larger, if_neg allowed, capacity] at outcome
  obtain ⟨_, b', written, rfl, grown, -⟩ := outcome fun _ => true
  obtain ⟨_, same, refused, rfl, -, kept⟩ := outcome fun _ => false
  rw [written, refused, grown rfl, kept (by simp)]
  exact ⟨rfl, rfl⟩

end TelemetryRelay.Builder
