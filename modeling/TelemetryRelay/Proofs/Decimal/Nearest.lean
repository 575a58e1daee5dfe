import Mathlib.Data.Nat.Dist
import TelemetryRelay.Proofs.Decimal.Bits

namespace TelemetryRelay.Binary64

/-- Rounding to an integer: `k` is not further than a half from the quotient, and even if it is that
far. -/
structure RoundsTo (num den k : Nat) : Prop where
  below : 2 * num ≤ 2 * (k * den) + den
  above : 2 * (k * den) ≤ 2 * num + den
  even : 2 * num = 2 * (k * den) + den ∨ 2 * (k * den) = 2 * num + den → k % 2 = 0

theorem roundHalfEven_roundsTo (num : Nat) {den : Nat} (positive : 0 < den) :
    RoundsTo num den (roundHalfEven num den) := by
  have parts := Nat.div_add_mod num den
  have rest := Nat.mod_lt num positive
  have next := Nat.add_one_mul (num / den) den
  rw [Nat.mul_comm den] at parts
  simp only [roundHalfEven]
  generalize num / den = q at parts next ⊢
  generalize num % den = r at parts rest ⊢
  split
  next => exact ⟨by omega, by omega, by omega⟩
  next =>
    split
    next => exact ⟨by omega, by omega, by omega⟩
    next =>
      split
      next even => exact ⟨by omega, by omega, fun _ => even⟩
      next odd => exact ⟨by omega, by omega, fun _ => by omega⟩

/-- An integer nearer than a half is the one that is rounded to. -/
theorem roundHalfEven_eq {num den k : Nat} (below : 2 * num < 2 * (k * den) + den)
    (above : 2 * (k * den) < 2 * num + den) : roundHalfEven num den = k := by
  have positive : 0 < den := by omega
  have rounded := roundHalfEven_roundsTo num positive
  generalize roundHalfEven num den = q at rounded ⊢
  have low : q * den < (k + 1) * den := by
    have h := rounded.above
    rw [Nat.add_one_mul]
    omega
  have high : k * den < (q + 1) * den := by
    have h := rounded.below
    rw [Nat.add_one_mul]
    omega
  have le : q < k + 1 := Nat.lt_of_mul_lt_mul_right low
  have ge : k < q + 1 := Nat.lt_of_mul_lt_mul_right high
  omega

/-- What is rounded to is the nearest integer. -/
theorem RoundsTo.dist_le {num den k : Nat} (h : RoundsTo num den k) (j : Nat) :
    Nat.dist (k * den) num ≤ Nat.dist (j * den) num := by
  have below := h.below
  have above := h.above
  unfold Nat.dist
  rcases Nat.lt_trichotomy j k with less | rfl | more
  · have step : (j + 1) * den ≤ k * den := Nat.mul_le_mul_right den less
    rw [Nat.add_one_mul] at step
    omega
  · exact Nat.le_refl _
  · have step : (k + 1) * den ≤ j * den := Nat.mul_le_mul_right den more
    rw [Nat.add_one_mul] at step
    omega

/-- If another integer is as near, the even one is taken. -/
theorem RoundsTo.even_of_dist_eq {num den k j : Nat} (h : RoundsTo num den k) (other : j ≠ k)
    (same : Nat.dist (k * den) num = Nat.dist (j * den) num) : k % 2 = 0 := by
  have below := h.below
  have above := h.above
  refine h.even ?_
  unfold Nat.dist at same
  rcases Nat.lt_or_gt_of_ne other with less | more
  · have step : (j + 1) * den ≤ k * den := Nat.mul_le_mul_right den less
    rw [Nat.add_one_mul] at step
    omega
  · have step : (k + 1) * den ≤ j * den := Nat.mul_le_mul_right den more
    rw [Nat.add_one_mul] at step
    omega

theorem le_roundHalfEven {num den k : Nat} (positive : 0 < den) (h : k * den ≤ num) :
    k ≤ roundHalfEven num den := by
  have below := (roundHalfEven_roundsTo num positive).below
  by_contra less
  have step : (roundHalfEven num den + 1) * den ≤ k * den :=
    Nat.mul_le_mul_right den (Nat.lt_of_not_le less)
  rw [Nat.add_one_mul] at step
  omega

/-- How far a double is from a fraction, as a multiple of `2 ^ -1074 / den`. -/
def gap (num den : Nat) (v : Float) : Nat :=
  Nat.dist (units v * den) (num * twoTo 1074)

/-- No finite double is nearer to a fraction, and another one is as near only if the significand is
even. -/
structure IsNearest (num den : Nat) (v : Float) : Prop where
  gap_le : ∀ y, isFinite y = true → gap num den v ≤ gap num den y
  even : ∀ y, isFinite y = true → gap num den v = gap num den y → units y ≠ units v →
    fractionField v % 2 = 0

/-- A double is a multiple of a power of two, or smaller than every number that has the power as
the last bit of its significand. -/
theorem multiple_or_small (v : Float) {den : Nat} (positive : 0 < den) (shift : Nat) :
    (∃ j, units v * den = j * (den * twoTo shift)) ∨
      shift ≠ 0 ∧ units v * den < twoTo 52 * (den * twoTo shift) := by
  rcases Nat.lt_or_ge (step v) shift with small | large
  · obtain ⟨e, rfl⟩ := Nat.exists_eq_add_one_of_ne_zero (Nat.ne_of_gt (Nat.zero_lt_of_lt small))
    have bound : units v < twoTo 52 * twoTo (e + 1) := by
      have largest := units_le (Nat.le_of_lt_succ small)
      have double : twoTo 53 * twoTo e = twoTo 52 * twoTo (e + 1) := by
        rw [← twoTo_add, ← twoTo_add, show 53 + e = 52 + (e + 1) by omega]
      have less : (twoTo 53 - 1) * twoTo e < twoTo 53 * twoTo e :=
        Nat.mul_lt_mul_of_pos_right (by decide) (twoTo_pos e)
      omega
    refine .inr ⟨Nat.succ_ne_zero e, ?_⟩
    rw [Nat.mul_left_comm, Nat.mul_comm (units v)]
    exact Nat.mul_lt_mul_of_pos_left bound positive
  · obtain ⟨k, eq⟩ := Nat.exists_eq_add_of_le large
    refine .inl ⟨significand v * twoTo k, ?_⟩
    rw [units, eq, twoTo_add]
    ring

section
variable (negative : Bool) {num den : Nat} (positive : 0 < den)
include positive

/-- The magnitude of the nearest double. -/
theorem units_nearest (below : nearestBits num den < infinityBits) :
    units (ofSignedBits negative (nearestBits num den)) =
      roundHalfEven (num * twoTo 1074) (den * twoTo ((num * twoTo 1074 / den).log2 - 52)) *
        twoTo ((num * twoTo 1074 / den).log2 - 52) := by
  have fits : roundHalfEven (num * twoTo 1074)
      (den * twoTo ((num * twoTo 1074 / den).log2 - 52)) ≤ twoTo 53 :=
    roundHalfEven_le (Nat.le_of_lt (lt_shifted positive))
  refine units_ofSignedBits negative ?_ fits below
  by_cases short : (num * twoTo 1074 / den).log2 - 52 = 0
  · exact .inl short
  · exact .inr (le_roundHalfEven (Nat.mul_pos positive (twoTo_pos _)) (shifted_le positive short))

theorem isNearest_ofSignedBits (below : nearestBits num den < infinityBits) :
    IsNearest num den (ofSignedBits negative (nearestBits num den)) := by
  have magnitude := units_nearest negative positive below
  have fraction := fractionField_ofSignedBits negative below
  have long := @shifted_le (num * twoTo 1074) den positive
  have rounded := fun shift =>
    roundHalfEven_roundsTo (num * twoTo 1074) (Nat.mul_pos positive (twoTo_pos shift))
  unfold nearestBits at magnitude fraction ⊢
  simp only at magnitude fraction ⊢
  generalize ((num * twoTo 1074) / den).log2 - 52 = shift at magnitude fraction long ⊢
  specialize rounded shift
  generalize roundHalfEven (num * twoTo 1074) (den * twoTo shift) = q at *
  generalize ofSignedBits negative (shift * twoTo 52 + q) = w at *
  have own : gap num den w = Nat.dist (q * (den * twoTo shift)) (num * twoTo 1074) := by
    rw [gap, magnitude, Nat.mul_assoc, Nat.mul_comm (twoTo shift)]
  -- A smaller double is further away than the least number with a significand of full length.
  have behind : ∀ y, shift ≠ 0 → units y * den < twoTo 52 * (den * twoTo shift) →
      gap num den w < gap num den y := by
    intro y long_shift small
    have full := rounded.dist_le (twoTo 52)
    have reached := long long_shift
    rw [own, gap]
    unfold Nat.dist at full ⊢
    omega
  refine ⟨fun y _ => ?_, fun y _ same other => ?_⟩
  · rcases multiple_or_small y positive shift with ⟨j, eq⟩ | ⟨long_shift, small⟩
    · rw [own, gap, eq]
      exact rounded.dist_le j
    · exact Nat.le_of_lt (behind y long_shift small)
  · rcases multiple_or_small y positive shift with ⟨j, eq⟩ | ⟨long_shift, small⟩
    · rw [own, gap, eq] at same
      have apart : j ≠ q := by
        rintro rfl
        refine other (Nat.eq_of_mul_eq_mul_right positive ?_)
        rw [eq, magnitude, Nat.mul_assoc, Nat.mul_comm (twoTo shift)]
      rw [fraction, Nat.mod_mod_of_dvd _ (by decide), Nat.mul_comm,
        show twoTo 52 = 2 * twoTo 51 from rfl, Nat.mul_assoc, Nat.mul_add_mod]
      exact rounded.even_of_dist_eq apart same
    · exact absurd same (Nat.ne_of_lt (behind y long_shift small))

end

end TelemetryRelay.Binary64
