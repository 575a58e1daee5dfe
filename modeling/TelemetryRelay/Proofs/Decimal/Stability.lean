import TelemetryRelay.Proofs.Decimal.Nearest
import TelemetryRelay.Proofs.Decimal.SixPlaces

namespace TelemetryRelay.Binary64

/-- A millionth is a little more than `2 ^ -20`. -/
theorem million_scale : twoTo 1074 = 1048576 * twoTo 1054 := by
  rw [show 1074 = 20 + 1054 from rfl, twoTo_add, show twoTo 20 = 1048576 from rfl]

/-- What is rounded to a multiple of less than a millionth has the same millionths. -/
theorem roundHalfEven_fine {m q shift : Nat} (fine : shift ≤ 1054)
    (rounded : RoundsTo (m * twoTo 1074) (1000000 * twoTo shift) q) :
    roundHalfEven (q * twoTo shift * 1000000) (twoTo 1074) = m := by
  have regroup : q * twoTo shift * 1000000 = q * (1000000 * twoTo shift) := by
    rw [Nat.mul_assoc, Nat.mul_comm (twoTo shift)]
  have ulp : 1000000 * twoTo shift < twoTo 1074 := by
    have scale := million_scale
    have positive := twoTo_pos 1054
    have le := twoTo_le fine
    omega
  have below := rounded.below
  have above := rounded.above
  rw [regroup]
  exact roundHalfEven_eq (by omega) (by omega)

/-- A double below `2 ^ 33` stays below it. -/
theorem shift_of_small {v : Float} (small : step v ≤ 1054) :
    (Decimal.millionths v * twoTo 1074 / 1000000).log2 - 52 ≤ 1054 := by
  have largest := units_le small
  have written := (roundHalfEven_roundsTo (units v * 1000000) (twoTo_pos 1074)).above
  rw [← Decimal.millionths] at written
  have quotient : Decimal.millionths v * twoTo 1074 / 1000000 < twoTo (1106 + 1) := by
    have scale := million_scale
    have positive := twoTo_pos 1054
    have bits : twoTo 53 = 9007199254740992 := rfl
    rw [bits] at largest
    rw [Nat.div_lt_iff_lt_mul (by decide), show 1106 + 1 = 53 + 1054 from rfl, twoTo_add, bits]
    omega
  have log := log2_le quotient
  omega

section
variable {v : Float} (large : 1055 ≤ step v)
include large

/-- From `2 ^ 33` on, doubles are further apart than a millionth. -/
theorem millionth_lt : twoTo 1074 < 1000000 * twoTo (step v) := by
  have scale := million_scale
  have double : twoTo 1055 = twoTo 1054 * twoTo 1 := twoTo_add 1054 1
  have two : twoTo 1 = 2 := rfl
  have positive := twoTo_pos 1054
  have le := twoTo_le large
  rw [double, two] at le
  omega

/-- The millionths of a large double have its length. -/
theorem length_of_large :
    (Decimal.millionths v * twoTo 1074 / 1000000).log2 - 52 = step v := by
  have full := significand_full (v := v) (by omega)
  have largest := units_le (Nat.le_refl (step v))
  have written := (roundHalfEven_roundsTo (units v * 1000000) (twoTo_pos 1074)).above
  have wide := millionth_lt large
  have bits : twoTo 53 = 9007199254740992 := rfl
  -- The least double of this length is a whole number, which rounding to millionths does not pass.
  have reached : twoTo (52 + step v) * 1000000 ≤ Decimal.millionths v * twoTo 1074 := by
    obtain ⟨k, eq⟩ := Nat.exists_eq_add_of_le (show 1074 ≤ 52 + step v by omega)
    have whole : twoTo k * 1000000 ≤ Decimal.millionths v := by
      apply le_roundHalfEven (twoTo_pos 1074)
      have least : twoTo (52 + step v) ≤ units v := by
        rw [twoTo_add]
        exact Nat.mul_le_mul_right _ full
      rw [eq, twoTo_add] at least
      have scaled := Nat.mul_le_mul_right 1000000 least
      rwa [Nat.mul_assoc, Nat.mul_comm] at scaled
    have scaled := Nat.mul_le_mul_right (twoTo 1074) whole
    rwa [Nat.mul_right_comm, ← twoTo_add, Nat.add_comm k, ← eq] at scaled
  rw [← Decimal.millionths] at written
  have quotient : Decimal.millionths v * twoTo 1074 / 1000000 < twoTo (52 + step v + 1) := by
    rw [Nat.div_lt_iff_lt_mul (by decide), show 52 + step v + 1 = 53 + step v by omega, twoTo_add]
    rw [bits] at largest ⊢
    omega
  have low := le_log2 ((Nat.le_div_iff_mul_le (by decide)).mpr reached)
  have high := log2_le quotient
  omega

/-- What is written of a large double lies nearest to it. -/
theorem significand_of_large :
    roundHalfEven (Decimal.millionths v * twoTo 1074) (1000000 * twoTo (step v)) =
      significand v := by
  have written := roundHalfEven_roundsTo (units v * 1000000) (twoTo_pos 1074)
  rw [← Decimal.millionths, units, Nat.mul_assoc, Nat.mul_comm (twoTo (step v))] at written
  have below := written.below
  have above := written.above
  have wide := millionth_lt large
  exact roundHalfEven_eq (by omega) (by omega)

end

end TelemetryRelay.Binary64

namespace TelemetryRelay.Decimal
open Binary64

section
variable {v : Float} (finite : isFinite v = true)
include finite

theorem toFloat_sixPlaces :
    (sixPlaces v).toFloat = ofSignedBits (isNegative v) (nearestBits (millionths v) 1000000) := by
  rw [Numeral.toFloat, magnitudeBits_sixPlaces finite, sixPlaces]

/-- What is read has the millionths that were written. -/
theorem millionths_sixPlaces : millionths (sixPlaces v).toFloat = millionths v := by
  have read := units_nearest (isNegative v) (by decide) (nearestBits_millionths_lt finite)
  rw [← toFloat_sixPlaces finite] at read
  rcases Nat.lt_or_ge 1054 (step v) with large | small
  · rw [length_of_large large, significand_of_large large] at read
    rw [millionths, read, ← units, ← millionths]
  · rw [millionths, read]
    exact roundHalfEven_fine (shift_of_small small)
      (roundHalfEven_roundsTo _ (Nat.mul_pos (by decide) (twoTo_pos _)))

theorem isNegative_sixPlaces : isNegative (sixPlaces v).toFloat = isNegative v := by
  rw [toFloat_sixPlaces finite, isNegative_ofSignedBits _ (nearestBits_millionths_lt finite)]

/-- The text of what is read is the text that was written. -/
theorem fixed_sixPlaces : fixed (sixPlaces v).toFloat = fixed v := by
  have read := isFinite_of_readFinite? (readFinite?_fixed finite)
  rw [fixed_of_isFinite finite, fixed_of_isFinite read, fixedDigits, isNegative_sixPlaces finite,
    millionths_sixPlaces finite, ← fixedDigits]

theorem isNearest_sixPlaces : IsNearest (millionths v) 1000000 (sixPlaces v).toFloat := by
  rw [toFloat_sixPlaces finite]
  exact isNearest_ofSignedBits _ (by decide) (nearestBits_millionths_lt finite)

end

end TelemetryRelay.Decimal
