import Mathlib
import TelemetryRelay.Proofs.Decimal.Rounding
import TelemetryRelay.Decimal.Reader

namespace TelemetryRelay.Binary64
open Float.Model (Format)
open Float.Model.UnpackedFloat (isNaNBits pack_unpack unpackExponent)

/-- The double of bits that are not those of infinity or NaN has these bits. -/
theorem toBits_ofBits {bits : UInt64} (finite : bits.toNat / twoTo 52 % twoTo 11 ≠ 2047) :
    (Float.ofBits bits).toBits = bits := by
  have exponent : (@unpackExponent .binary64 bits.toBitVec).toNat =
      bits.toNat / twoTo 52 % twoTo 11 := by
    change (bits.toNat >>> 52) % 2 ^ 11 = _
    rw [Nat.shiftRight_eq_div_pow]
    rfl
  have number : ¬ @isNaNBits .binary64 bits.toBitVec = true := by
    simp only [isNaNBits, decide_eq_true_eq, not_and]
    intro special
    exact absurd (by rw [← exponent, special]; rfl) finite
  have restored := @pack_unpack .binary64 bits.toBitVec (by decide)
  rw [if_neg number] at restored
  exact UInt64.toBitVec_inj.mp restored

section
variable (negative : Bool) {bits : Nat} (below : bits < infinityBits)
include below

theorem toNat_signedBits :
    (UInt64.ofNat ((if negative then twoTo 63 else 0) + bits)).toNat =
      (if negative then twoTo 63 else 0) + bits := by
  have infinity : infinityBits = 2047 * twoTo 52 := rfl
  have sign : twoTo 63 = 2048 * twoTo 52 := rfl
  have width : UInt64.size = twoTo 63 + twoTo 63 := rfl
  refine UInt64.toNat_ofNat_of_lt' ?_
  split <;> omega

/-- The sign stands above the exponent and does not change it. -/
theorem exponent_signedBits :
    ((if negative then twoTo 63 else 0) + bits) / twoTo 52 % twoTo 11 = bits / twoTo 52 := by
  have small : bits / twoTo 52 < twoTo 11 :=
    Nat.lt_trans ((Nat.div_lt_iff_lt_mul (twoTo_pos 52)).mpr below) (by decide)
  have sign : twoTo 63 = twoTo 52 * twoTo 11 := rfl
  split
  next => rw [sign, Nat.mul_add_div (twoTo_pos 52), Nat.add_mod_left, Nat.mod_eq_of_lt small]
  next => rw [Nat.zero_add, Nat.mod_eq_of_lt small]

theorem toNat_toBits_ofSignedBits :
    (ofSignedBits negative bits).toBits.toNat = (if negative then twoTo 63 else 0) + bits := by
  have finite : bits / twoTo 52 ≠ 2047 :=
    Nat.ne_of_lt ((Nat.div_lt_iff_lt_mul (twoTo_pos 52)).mpr below)
  have signed := toNat_signedBits negative below
  have exponent := exponent_signedBits negative below
  rw [← signed] at exponent
  rw [ofSignedBits, toBits_ofBits (fun special => finite (exponent.symm.trans special)), signed]

theorem exponentField_ofSignedBits :
    exponentField (ofSignedBits negative bits) = bits / twoTo 52 := by
  rw [exponentField, toNat_toBits_ofSignedBits negative below, exponent_signedBits negative below]

theorem fractionField_ofSignedBits :
    fractionField (ofSignedBits negative bits) = bits % twoTo 52 := by
  have sign : twoTo 63 = twoTo 52 * twoTo 11 := rfl
  rw [fractionField, toNat_toBits_ofSignedBits negative below]
  split
  next => rw [sign, Nat.mul_add_mod]
  next => rw [Nat.zero_add]

theorem isNegative_ofSignedBits : isNegative (ofSignedBits negative bits) = negative := by
  have small : bits < twoTo 63 := Nat.lt_trans below (by decide)
  rw [isNegative, toNat_toBits_ofSignedBits negative below]
  cases negative with
  | true =>
    rw [if_pos rfl, Nat.add_div_left _ (twoTo_pos 63), Nat.div_eq_of_lt small]
    rfl
  | false =>
    rw [if_neg Bool.false_ne_true, Nat.zero_add, Nat.div_eq_of_lt small]
    rfl

theorem isFinite_ofSignedBits : isFinite (ofSignedBits negative bits) = true := by
  have finite : bits / twoTo 52 ≠ 2047 :=
    Nat.ne_of_lt ((Nat.div_lt_iff_lt_mul (twoTo_pos 52)).mpr below)
  rw [isFinite, exponentField_ofSignedBits negative below]
  exact bne_iff_ne.mpr finite

end

/-- A significand and the number of its doublings, put together as bits, give back the magnitude.
A significand of full length may have been rounded up to the next power of two. -/
theorem units_ofSignedBits (negative : Bool) {shift q : Nat} (normal : shift = 0 ∨ twoTo 52 ≤ q)
    (fits : q ≤ twoTo 53) (below : shift * twoTo 52 + q < infinityBits) :
    units (ofSignedBits negative (shift * twoTo 52 + q)) = q * twoTo shift := by
  have double : twoTo 53 = twoTo 52 + twoTo 52 := rfl
  have power := twoTo_pos 52
  rw [units, significand, step, exponentField_ofSignedBits negative below,
    fractionField_ofSignedBits negative below, Nat.mul_comm shift, Nat.mul_add_div power,
    Nat.mul_add_mod]
  rcases Nat.lt_or_ge q (twoTo 52) with small | large
  · obtain rfl : shift = 0 := normal.resolve_right (Nat.not_le.mpr small)
    rw [Nat.div_eq_of_lt small, Nat.mod_eq_of_lt small, if_pos rfl]
  · rcases Nat.lt_or_eq_of_le fits with inside | rfl
    · have one : q / twoTo 52 = 1 := Nat.div_eq_of_lt_le (by omega) (by omega)
      have rest : q % twoTo 52 + twoTo 52 = q := by
        have parts := Nat.div_add_mod q (twoTo 52)
        rw [one] at parts
        omega
      rw [one, rest, if_neg (by omega), Nat.add_sub_cancel]
    · have two : twoTo 53 / twoTo 52 = 2 := rfl
      have none : twoTo 53 % twoTo 52 = 0 := rfl
      have next : twoTo (shift + 1) = twoTo shift * 2 := twoTo_add shift 1
      rw [two, none, if_neg (by omega), show shift + 2 - 1 = shift + 1 by omega, next]
      rw [double, Nat.zero_add]
      generalize twoTo 52 = a
      generalize twoTo shift = b
      rw [Nat.mul_comm b 2, ← Nat.mul_assoc, Nat.mul_two]

end TelemetryRelay.Binary64

namespace TelemetryRelay.Decimal

/-- What is read as a finite double is finite. -/
theorem isFinite_of_readFinite? {cs : List Char} {v : Float} (h : readFinite? cs = some v) :
    Binary64.isFinite v = true := by
  obtain ⟨n, -, read⟩ := Option.bind_eq_some_iff.mp h
  obtain ⟨below, eq⟩ := Option.ite_none_right_eq_some.mp read
  rw [← Option.some.inj eq]
  exact Binary64.isFinite_ofSignedBits n.negative below

end TelemetryRelay.Decimal
