import TelemetryRelay.Decimal.Fixed

namespace TelemetryRelay.Binary64

theorem twoTo_pos (n : Nat) : 0 < twoTo n :=
  Nat.two_pow_pos n

theorem twoTo_add (m n : Nat) : twoTo (m + n) = twoTo m * twoTo n :=
  Nat.pow_add 2 m n

theorem twoTo_le {m n : Nat} (h : m ≤ n) : twoTo m ≤ twoTo n :=
  Nat.pow_le_pow_right (by decide) h

theorem log2_lt_iff {n k : Nat} (h : n ≠ 0) : n.log2 < k ↔ n < twoTo k :=
  Nat.log2_lt h

theorem significand_lt (v : Float) : significand v < twoTo 53 := by
  have fraction : fractionField v < twoTo 52 := Nat.mod_lt _ (twoTo_pos 52)
  have double : twoTo 53 = twoTo 52 + twoTo 52 := rfl
  unfold significand
  split <;> omega

theorem significand_full {v : Float} (long : step v ≠ 0) : twoTo 52 ≤ significand v := by
  have normal : exponentField v ≠ 0 := by
    intro zero
    rw [step, zero] at long
    exact long rfl
  rw [significand, if_neg normal]
  exact Nat.le_add_left _ _

theorem step_le {v : Float} (finite : isFinite v = true) : step v ≤ 971 + 1074 := by
  have field : exponentField v < 2048 := Nat.mod_lt _ (twoTo_pos 11)
  have below : exponentField v ≠ 2047 := by simpa [isFinite] using finite
  unfold step
  omega

/-- No double with this step is larger than the one with all bits of its significand set. -/
theorem units_le {v : Float} {e : Nat} (h : step v ≤ e) : units v ≤ (twoTo 53 - 1) * twoTo e := by
  have largest : significand v ≤ twoTo 53 - 1 := Nat.le_sub_one_of_lt (significand_lt v)
  exact Nat.mul_le_mul largest (twoTo_le h)

theorem roundHalfEven_le {num den k : Nat} (h : num ≤ k * den) : roundHalfEven num den ≤ k := by
  have quotient : num / den ≤ k := Nat.div_le_of_le_mul (Nat.mul_comm k den ▸ h)
  have whole : num / den = k → num % den = 0 := by
    rintro rfl
    have parts := Nat.div_add_mod num den
    have swap := Nat.mul_comm den (num / den)
    omega
  simp only [roundHalfEven]
  split
  next => exact quotient
  next upper =>
    split
    next => omega
    next half =>
      split
      next => exact quotient
      next odd =>
        have rest : num / den ≠ k := by
          intro eq
          have zero := whole eq
          rw [zero] at upper half
          have none : den = 0 := by omega
          rw [none, Nat.div_zero] at odd
          exact odd rfl
        omega

theorem log2_le {n k : Nat} (h : n < twoTo (k + 1)) : n.log2 ≤ k := by
  by_cases zero : n = 0
  · simp [zero]
  · exact Nat.le_of_lt_succ ((log2_lt_iff zero).mpr h)

theorem le_log2 {n k : Nat} (h : twoTo k ≤ n) : k ≤ n.log2 :=
  (Nat.le_log2 (Nat.ne_of_gt (Nat.lt_of_lt_of_le (twoTo_pos k) h))).mpr h

section
variable {num den : Nat} (positive : 0 < den)
include positive

/-- The significand of a quotient has at most fifty-three bits. -/
theorem lt_shifted : num < twoTo 53 * (den * twoTo ((num / den).log2 - 52)) := by
  rw [Nat.mul_comm den, ← Nat.mul_assoc, ← twoTo_add, ← Nat.div_lt_iff_lt_mul positive]
  by_cases zero : num / den = 0
  · rw [zero]
    exact twoTo_pos _
  · exact (log2_lt_iff zero).mp (by omega)

/-- It has as many if the quotient has. -/
theorem shifted_le (long : (num / den).log2 - 52 ≠ 0) :
    twoTo 52 * (den * twoTo ((num / den).log2 - 52)) ≤ num := by
  rw [Nat.mul_comm den, ← Nat.mul_assoc, ← twoTo_add, ← Nat.le_div_iff_mul_le positive,
    ← Nat.not_lt]
  by_cases zero : num / den = 0
  · simp [zero] at long
  · rw [← log2_lt_iff zero]
    omega

end

/-- A fraction whose quotient has at most `e` bits beyond a significand stays below the bits of the
next power of two. -/
theorem rounded_lt {num den e : Nat} (positive : 0 < den)
    (h : num ≤ (twoTo 53 - 1) * twoTo e * den) :
    ((num / den).log2 - 52) * twoTo 52 +
        roundHalfEven num (den * twoTo ((num / den).log2 - 52)) < (e + 2) * twoTo 52 := by
  have power : twoTo 52 = 4503599627370496 := rfl
  have double : twoTo 53 = 9007199254740992 := rfl
  have quotient : num / den ≤ (twoTo 53 - 1) * twoTo e := by
    apply Nat.div_le_of_le_mul
    rwa [Nat.mul_comm]
  have small : num / den < twoTo (53 + e) := by
    have positive := twoTo_pos e
    rw [twoTo_add]
    rw [double] at quotient ⊢
    omega
  have log : (num / den).log2 ≤ e + 52 := log2_le (by rwa [Nat.add_comm 53 e] at small)
  have least : num ≤ twoTo 53 * (den * twoTo ((num / den).log2 - 52)) :=
    Nat.le_of_lt (lt_shifted positive)
  generalize shift_eq : (num / den).log2 - 52 = shift at least ⊢
  -- A rounded significand may reach the next power of two, but not if `shift` is as large as can be.
  rcases Nat.lt_or_eq_of_le (show shift ≤ e by omega) with below | rfl
  · have rounded := roundHalfEven_le least
    rw [power]
    omega
  · have least : num ≤ (twoTo 53 - 1) * (den * twoTo shift) := by
      rwa [Nat.mul_assoc, Nat.mul_comm (twoTo shift)] at h
    have rounded := roundHalfEven_le least
    rw [power]
    omega

theorem roundHalfEven_mul_le {u a c p m : Nat} (h : u ≤ a * (c * p)) :
    roundHalfEven (u * m) p * p ≤ a * (c * p) * m := by
  have regroup : a * (c * p) * m = a * c * m * p := by
    rw [← Nat.mul_assoc, Nat.mul_right_comm]
  have rounded : roundHalfEven (u * m) p ≤ a * c * m := by
    apply roundHalfEven_le
    rw [← regroup]
    exact Nat.mul_le_mul_right m h
  rw [regroup]
  exact Nat.mul_le_mul_right _ rounded

/-- Six decimal places do not round a finite double up to infinity. -/
theorem nearestBits_millionths_lt {v : Float} (finite : isFinite v = true) :
    nearestBits (Decimal.millionths v) 1000000 < infinityBits := by
  have largest := units_le (step_le finite)
  rw [twoTo_add] at largest
  have bound : Decimal.millionths v * twoTo 1074 ≤ _ := roundHalfEven_mul_le largest
  rw [← twoTo_add] at bound
  have below := rounded_lt (by decide) bound
  rw [nearestBits]
  exact below

end TelemetryRelay.Binary64
