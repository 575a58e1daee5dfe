import TelemetryRelay.Proofs.Decimal.Bits

namespace TelemetryRelay.Binary64

open Float.Model (Format UnpackedFloat)
open Float.Model.UnpackedFloat (unpackExponent unpackMantissa unpackSign Sign)

theorem toNat_unpackExponent (v : Float) :
    (@unpackExponent .binary64 v.toBits.toBitVec).toNat = exponentField v := by
  change (v.toBits.toNat >>> 52) % 2 ^ 11 = _
  rw [Nat.shiftRight_eq_div_pow]
  rfl

theorem toNat_unpackMantissa (v : Float) :
    (@unpackMantissa .binary64 v.toBits.toBitVec).toNat = fractionField v :=
  rfl

/-- The sign of a double, also of zero. -/
def signOf (v : Float) : Sign :=
  if isNegative v then .negative else .positive

theorem ofBitVec_unpackSign (v : Float) :
    Sign.ofBitVec (@unpackSign .binary64 v.toBits.toBitVec) = signOf v := by
  have bound : v.toBits.toNat / 2 ^ 63 < 2 := by
    have width := v.toBits.toNat_lt
    omega
  have bit : (@unpackSign .binary64 v.toBits.toBitVec).toNat = v.toBits.toNat / twoTo 63 := by
    change (v.toBits.toNat >>> 63) % 2 ^ 1 = _
    rw [Nat.shiftRight_eq_div_pow]
    exact Nat.mod_eq_of_lt bound
  have zero : @unpackSign .binary64 v.toBits.toBitVec = 0#1 ↔ ¬ isNegative v = true := by
    rw [← BitVec.toNat_inj, bit, isNegative, beq_iff_eq]
    change v.toBits.toNat / 2 ^ 63 = 0 ↔ ¬ v.toBits.toNat / 2 ^ 63 = 1
    omega
  rw [Sign.ofBitVec, signOf]
  by_cases negative : isNegative v = true
  · rw [if_neg (mt zero.mp (not_not.mpr negative)), if_pos negative]
  · rw [if_pos (zero.mpr negative), if_neg negative]

theorem finite_congr {sign : Sign} {m m' : Nat} {e e' : Int} {h : 0 < m} {h' : 0 < m'}
    (factor : m = m') (exponent : e = e') :
    UnpackedFloat.finite sign m e h = .finite sign m' e' h' := by
  subst factor exponent
  rfl

theorem unpack_eq (v : Float) : v.toModel.unpack =
    if exponentField v = 2047 then
      if fractionField v = 0 then .infinity (signOf v) else .notANumber
    else if h : significand v = 0 then .zero (signOf v)
    else .finite (signOf v) (significand v) (step v - 1074) (Nat.pos_of_ne_zero h) := by
  have full : @unpackExponent .binary64 v.toBits.toBitVec = -1#_ ↔ exponentField v = 2047 := by
    rw [← BitVec.toNat_inj, toNat_unpackExponent]
    rfl
  have least : @unpackExponent .binary64 v.toBits.toBitVec = 0#_ ↔ exponentField v = 0 := by
    rw [← BitVec.toNat_inj, toNat_unpackExponent]
    rfl
  have blank : @unpackMantissa .binary64 v.toBits.toBitVec = 0#_ ↔ fractionField v = 0 := by
    rw [← BitVec.toNat_inj, toNat_unpackMantissa]
    rfl
  have exponent := toNat_unpackExponent v
  have fraction := toNat_unpackMantissa v
  have unfolded : v.toModel.unpack = UnpackedFloat.unpack .binary64 v.toBits.toBitVec := rfl
  rw [unfolded, UnpackedFloat.unpack]
  simp only [ofBitVec_unpackSign, full, least, blank]
  split
  next => rfl
  next =>
    split
    next zero =>
      have magnitude : significand v = fractionField v := by rw [significand, if_pos zero]
      by_cases none : fractionField v = 0
      · have missing : significand v = 0 := magnitude.trans none
        rw [dif_pos none, dif_pos missing]
      · have present : significand v ≠ 0 := magnitude ▸ none
        rw [dif_neg none, dif_neg present]
        refine finite_congr (fraction.trans magnitude.symm) ?_
        rw [exponent, step, zero]
        rfl
    next normal =>
      have magnitude : significand v = fractionField v + twoTo 52 := by
        rw [significand, if_neg normal]
      have present : significand v ≠ 0 := by
        have positive := twoTo_pos 52
        omega
      rw [dif_neg present]
      refine finite_congr ?_ ?_
      · have bound : fractionField v < 2 ^ 52 := Nat.mod_lt _ (twoTo_pos 52)
        rw [BitVec.toNat_append, fraction, magnitude, ← Nat.shiftLeft_add_eq_or_of_lt bound,
          Nat.add_comm]
        rfl
      · have bias : ((Format.binary64.exponentBias : Int) + (52 : Nat)) = 1075 := rfl
        rw [exponent, step, bias]
        omega

/-- A double whose exact value lies above 0 and not above 1. -/
structure IsShare (v : Float) : Prop where
  finite : isFinite v = true
  positive : isNegative v = false
  above : 0 < units v
  below : units v ≤ twoTo 1074

theorem units_pos_iff {v : Float} : 0 < units v ↔ significand v ≠ 0 := by
  rw [units, Nat.mul_pos_iff_of_pos_right (twoTo_pos _), Nat.pos_iff_ne_zero]

theorem units_le_one_iff (v : Float) :
    units v ≤ twoTo 1074 ↔ step v < 1022 ∨ step v = 1022 ∧ significand v ≤ twoTo 52 := by
  have whole : twoTo 1074 = twoTo 52 * twoTo 1022 := twoTo_add 52 1022
  have double : twoTo 1022 = twoTo 1021 * twoTo 1 := twoTo_add 1021 1
  have two : twoTo 1 = 2 := rfl
  have bits : twoTo 53 = 2 * twoTo 52 := rfl
  have positive := twoTo_pos 1021
  rw [two] at double
  rcases Nat.lt_trichotomy (step v) 1022 with less | equal | more
  · have largest := units_le (v := v) (Nat.le_of_lt_succ less)
    have below : (twoTo 53 - 1) * twoTo 1021 ≤ twoTo 53 * twoTo 1021 :=
      Nat.mul_le_mul_right _ (Nat.sub_le _ _)
    have same : twoTo 53 * twoTo 1021 = twoTo 1074 := by
      rw [← twoTo_add]
    simp only [less, true_or, iff_true]
    exact same ▸ largest.trans below
  · rw [units, equal, whole, Nat.mul_le_mul_right_iff (twoTo_pos _)]
    simp
  · have full := significand_full (v := v) (by omega)
    have least : twoTo 52 * twoTo 1023 ≤ units v := Nat.mul_le_mul full (twoTo_le more)
    have twice : twoTo 1075 = twoTo 1074 * twoTo 1 := twoTo_add 1074 1
    have parts : twoTo 1075 = twoTo 52 * twoTo 1023 := twoTo_add 52 1023
    have above := twoTo_pos 1074
    rw [two] at twice
    omega

theorem zero_lt_iff (v : Float) : 0.0 < v ↔
    (UnpackedFloat.zero .positive).lt v.toModel.unpack = true :=
  decide_eq_true_iff

theorem le_one_iff (v : Float) : v ≤ 1.0 ↔
    v.toModel.unpack.le (.finite .positive (2 ^ 52) (-52) (by decide)) = true :=
  decide_eq_true_iff

/-- Comparing with 0 and 1 is comparing exact values; neither an infinity nor what is not a number
passes. -/
theorem isShare_iff (v : Float) : (0.0 < v ∧ v ≤ 1.0) ↔ IsShare v := by
  rw [zero_lt_iff, le_one_iff, unpack_eq]
  split
  next special =>
    have infinite : ¬ isFinite v = true := by simp [isFinite, special]
    have none : ¬ IsShare v := fun share => infinite share.finite
    simp only [none, iff_false, not_and]
    split
    next =>
      cases signOf v <;>
        simp [UnpackedFloat.lt, UnpackedFloat.le, UnpackedFloat.compare, Ordering.isLE]
    next => simp [UnpackedFloat.lt, UnpackedFloat.compare]
  next number =>
    have finite : isFinite v = true := by simpa [isFinite] using number
    split
    next missing =>
      have none : ¬ IsShare v := fun share => units_pos_iff.mp share.above missing
      simp [none, UnpackedFloat.lt, UnpackedFloat.compare]
    next present =>
      by_cases negative : isNegative v = true
      · have below : signOf v = .negative := by rw [signOf, if_pos negative]
        have none : ¬ IsShare v := fun share => by simp [share.positive] at negative
        simp [none, below, UnpackedFloat.lt, UnpackedFloat.compare]
      · have above : signOf v = .positive := by rw [signOf, if_neg negative]
        have share : IsShare v ↔ units v ≤ twoTo 1074 :=
          ⟨IsShare.below, fun le =>
            ⟨finite, by simpa using negative, units_pos_iff.mpr present, le⟩⟩
        have order : ((compare ((step v : Int) - 1074) (-52)).then
            (compare (significand v) (2 ^ 52))).isLE = true ↔
            step v < 1022 ∨ step v = 1022 ∧ significand v ≤ twoTo 52 := by
          rw [Ordering.isLE_then_iff_or, Int.compare_eq_lt, Int.compare_eq_eq, Nat.isLE_compare]
          exact or_congr (by omega) (and_congr (by omega) Iff.rfl)
        rw [share, units_le_one_iff, ← order]
        simp [above, UnpackedFloat.lt, UnpackedFloat.le, UnpackedFloat.compare]

end TelemetryRelay.Binary64
