import Mathlib.Data.Nat.Digits.Defs
import TelemetryRelay.Proofs.Decimal.Numerals
import TelemetryRelay.Proofs.Decimal.Rounding

namespace TelemetryRelay.Decimal

/-- A numeral with a point and without an exponent. -/
theorem readNumeral?_point (negative : Bool) {whole fraction : List Char} (hw : IsFigures whole)
    (hf : ∀ c ∈ fraction, c.isDigit = true) :
    readNumeral? ((if negative then ['-'] else []) ++ whole ++ '.' :: fraction) =
      some { negative, digits := Digits.decimal (whole ++ fraction)
             width := (whole ++ fraction).length, exponent := 0 - fraction.length } := by
  have sign : takeSign ((if negative then ['-'] else []) ++ whole ++ '.' :: fraction) =
      (negative, whole ++ '.' :: fraction) := by
    cases negative with
    | true => rfl
    | false => exact takeSign_append hw _
  have front : (whole ++ '.' :: fraction).span Char.isDigit = (whole, '.' :: fraction) :=
    Text.span_append hw.digits (by simp)
  have back : (fraction ++ []).span Char.isDigit = (fraction, []) := Text.span_append hf (by simp)
  rw [List.append_nil] at back
  have full : (whole ++ fraction).isEmpty = false := by
    rw [List.isEmpty_eq_false_iff]
    exact List.append_ne_nil_of_left_ne_nil hw.ne_nil _
  simp only [readNumeral?, sign, front, back, full]
  rfl

theorem length_padded {n : Nat} (h : n < 1000000) : (padded 6 n).length = 6 := by
  have short : (digits n).length ≤ 6 := Nat.toDigits_length 10 n 6 (by decide) h
  rw [padded, List.length_leftpad]
  exact Nat.max_eq_left short

theorem isDigit_of_mem_padded {width n : Nat} {c : Char} (h : c ∈ padded width n) :
    c.isDigit = true := by
  rcases List.mem_append.mp h with zero | digit
  · rw [List.eq_of_mem_replicate zero]
    decide
  · exact (digits_figures n).digits c digit

theorem mem_fixedDigits {v : Float} {c : Char} (h : c ∈ fixedDigits v) :
    c.isDigit = true ∨ c = '-' ∨ c = '.' := by
  simp only [fixedDigits, List.mem_append, List.mem_cons] at h
  rcases h with (sign | digit) | point | digit
  · split at sign
    next => exact .inr (.inl (List.mem_singleton.mp sign))
    next => simp at sign
  · exact .inl ((digits_figures _).digits c digit)
  · exact .inr (.inr point)
  · exact .inl (isDigit_of_mem_padded digit)

theorem ofDigitChars_padded {n : Nat} (h : n < 1000000) (high : Nat) :
    Nat.ofDigitChars 10 (padded 6 n) high = high * 1000000 + n := by
  have value : Nat.ofDigitChars 10 (padded 6 n) 0 = n := by
    rw [padded, List.leftpad, Nat.ofDigitChars_append, Nat.ofDigitChars_replicate_zero, Nat.mul_zero]
    exact Nat.ofDigitChars_ten_toDigits
  rw [Nat.ofDigitChars_eq_ofDigitChars_zero, value, length_padded h]
  omega

/-- The numeral that a finite double is written as. -/
def sixPlaces (v : Float) : Numeral where
  negative := Binary64.isNegative v
  digits := millionths v
  width := (digits (millionths v / 1000000)).length + 6
  exponent := -6

theorem decimal_places (m : Nat) :
    Digits.decimal (digits (m / 1000000) ++ padded 6 (m % 1000000)) = m := by
  rw [decimal_eq, Nat.ofDigitChars_append, ofDigitChars_padded (Nat.mod_lt _ (by decide)), digits,
    Nat.ofDigitChars_ten_toDigits]
  omega

/-- What is written for a finite double is read as its numeral. -/
theorem readNumeral?_fixedDigits (v : Float) :
    readNumeral? (fixedDigits v) = some (sixPlaces v) := by
  rw [fixedDigits, sixPlaces]
  -- Nothing below may compute with the value of `v`.
  generalize millionths v = m
  rw [readNumeral?_point _ (digits_figures _) fun c => isDigit_of_mem_padded, decimal_places,
    List.length_append, length_padded (Nat.mod_lt _ (by decide))]
  rfl

theorem nearestBits_zero {den : Nat} (positive : 0 < den) : Binary64.nearestBits 0 den = 0 := by
  simp [Binary64.nearestBits, Binary64.roundHalfEven, Nat.mul_pos positive (Binary64.twoTo_pos _)]

section
variable {v : Float} (finite : Binary64.isFinite v = true)
include finite

/-- What is written for a finite double is read as the double nearest to it. -/
theorem magnitudeBits_sixPlaces :
    (sixPlaces v).magnitudeBits = Binary64.nearestBits (millionths v) 1000000 := by
  have figures : (sixPlaces v).digits = millionths v := by rw [sixPlaces]
  have exponent : (sixPlaces v).exponent = Int.negSucc 5 := rfl
  have small : ¬ 400 < Int.negSucc 5 := by decide
  have near : ¬ ((sixPlaces v).width : Int) + Int.negSucc 5 < -330 := by
    simp only [sixPlaces]
    omega
  have bound := Binary64.nearestBits_millionths_lt finite
  simp only [Numeral.magnitudeBits, figures, exponent, if_neg small, if_neg near]
  split
  next zero => rw [zero, nearestBits_zero (by decide)]
  next => exact Nat.min_eq_right (Nat.le_of_lt bound)

theorem magnitudeBits_sixPlaces_lt : (sixPlaces v).magnitudeBits < Binary64.infinityBits := by
  rw [magnitudeBits_sixPlaces finite]
  exact Binary64.nearestBits_millionths_lt finite

end

theorem fixed_of_isFinite {v : Float} (finite : Binary64.isFinite v = true) :
    fixed v = String.ofList (fixedDigits v) := by
  have number : Binary64.isNaN v = false := by
    simp only [Binary64.isFinite, bne_iff_ne] at finite
    simp [Binary64.isNaN, finite]
  simp [fixed, number, finite]

/-- The six places of a finite double are read as a finite double. -/
theorem readFinite?_fixed {v : Float} (finite : Binary64.isFinite v = true) :
    readFinite? (fixed v).toList = some (sixPlaces v).toFloat := by
  rw [fixed_of_isFinite finite, String.toList_ofList, readFinite?, readNumeral?_fixedDigits,
    Option.bind_some, Numeral.toFinite?, if_pos (magnitudeBits_sixPlaces_lt finite)]

end TelemetryRelay.Decimal
