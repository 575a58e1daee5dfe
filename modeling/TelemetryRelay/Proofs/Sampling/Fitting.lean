import Mathlib.Algebra.BigOperators.Ring.List
import Mathlib.Algebra.Order.BigOperators.Group.List
import Mathlib.Algebra.Order.Field.Rat
import Mathlib.Tactic.FieldSimp
import Mathlib.Tactic.LinearCombination
import Mathlib.Tactic.Linarith
import Mathlib.Tactic.Ring
import TelemetryRelay.Sampling.Calibration

namespace TelemetryRelay.Calibration

/-- How far points lie from a line: the sum of the squared differences between their second
coordinates and the line. -/
def deviation (line : Line ℚ) (points : List (ℚ × ℚ)) : ℚ :=
  (points.map fun p => (p.2 - line.apply p.1) ^ 2).sum

/-- The mean of the second coordinates. -/
def mean (points : List (ℚ × ℚ)) : ℚ :=
  (points.map Prod.snd).sum / points.length

/-- Whether all points have the same first coordinate. -/
def Upright (points : List (ℚ × ℚ)) : Prop :=
  ∀ p ∈ points, ∀ q ∈ points, p.1 = q.1

/-- The differences from a line cancel out, by themselves and weighted with the first coordinates. -/
structure Balanced (line : Line ℚ) (points : List (ℚ × ℚ)) : Prop where
  sum : (points.map fun p => p.2 - line.apply p.1).sum = 0
  weighted : (points.map fun p => p.1 * (p.2 - line.apply p.1)).sum = 0

theorem sum_sq_nonneg {α : Type} (f : α → ℚ) (xs : List α) :
    0 ≤ (xs.map fun x => f x ^ 2).sum := by
  apply List.sum_nonneg
  simp only [List.mem_map, forall_exists_index, and_imp, forall_apply_eq_imp_iff₂]
  exact fun x _ => sq_nonneg (f x)

theorem sum_sq_eq_zero_iff {α : Type} {f : α → ℚ} {xs : List α} :
    (xs.map fun x => f x ^ 2).sum = 0 ↔ ∀ x ∈ xs, f x = 0 := by
  induction xs with
  | nil => simp
  | cons x rest ih =>
    rw [List.map_cons, List.sum_cons, List.forall_mem_cons, ← ih,
      add_eq_zero_iff_of_nonneg (sq_nonneg _) (sum_sq_nonneg f rest), sq_eq_zero_iff]

section
variable {points : List (ℚ × ℚ)} {line : Line ℚ}

theorem Sums.foldl_add (points : List (ℚ × ℚ)) (s : Sums ℚ) :
    points.foldl Sums.add s =
      ⟨s.x + (points.map Prod.fst).sum, s.y + (points.map Prod.snd).sum,
        s.xy + (points.map fun p => p.1 * p.2).sum,
        s.xx + (points.map fun p => p.1 * p.1).sum⟩ := by
  induction points generalizing s with
  | nil => simp
  | cons p rest ih => simp [ih, Sums.add, add_assoc]

/-- The sums do not depend on the order in which the points are added. -/
theorem Sums.of_eq (points : List (ℚ × ℚ)) :
    Sums.of points =
      ⟨(points.map Prod.fst).sum, (points.map Prod.snd).sum,
        (points.map fun p => p.1 * p.2).sum, (points.map fun p => p.1 * p.1).sum⟩ := by
  simp [Sums.of, Sums.foldl_add]

theorem fit_perm {others : List (ℚ × ℚ)} (perm : points.Perm others) :
    fit points = fit others := by
  have sums : Sums.of points = Sums.of others := by
    rw [Sums.of_eq, Sums.of_eq, (perm.map _).sum_eq, (perm.map _).sum_eq, (perm.map _).sum_eq,
      (perm.map _).sum_eq]
  rw [fit, fit, perm.length_eq, sums]

/-- The spread is made of the squared distances from the mean of the first coordinates. -/
theorem sum_sq_sub (points : List (ℚ × ℚ)) (m : ℚ) :
    (points.map fun p => (p.1 - m) ^ 2).sum =
      (Sums.of points).xx - 2 * m * (Sums.of points).x + points.length * m ^ 2 := by
  rw [Sums.of_eq]
  induction points with
  | nil => simp
  | cons p rest ih =>
    simp only [List.map_cons, List.sum_cons, List.length_cons, Nat.cast_succ] at ih ⊢
    rw [ih]
    ring

theorem length_ne_zero (filled : points ≠ []) : (points.length : ℚ) ≠ 0 := by
  simpa using filled

theorem spread_eq (filled : points ≠ []) :
    spread (points.length : ℚ) (Sums.of points) =
      points.length *
        (points.map fun p => (p.1 - (Sums.of points).x / points.length) ^ 2).sum := by
  have number := length_ne_zero filled
  rw [sum_sq_sub, spread]
  field_simp
  ring

theorem spread_eq_zero_iff (filled : points ≠ []) :
    spread (points.length : ℚ) (Sums.of points) = 0 ↔ Upright points := by
  have number := length_ne_zero filled
  rw [spread_eq filled, mul_eq_zero_iff_left number, sum_sq_eq_zero_iff]
  constructor
  · intro same p hp q hq
    have hp' := same p hp
    have hq' := same q hq
    linarith
  · intro upright p hp
    have all : ∀ x ∈ points.map Prod.fst, x = p.1 := by
      simp only [List.mem_map, forall_exists_index, and_imp, forall_apply_eq_imp_iff₂]
      exact fun q hq => upright q hq p hp
    rw [Sums.of_eq, List.eq_replicate_of_mem all, List.sum_replicate, List.length_map, nsmul_eq_mul]
    field_simp
    ring

theorem sum_sub_apply (points : List (ℚ × ℚ)) (line : Line ℚ) :
    (points.map fun p => p.2 - line.apply p.1).sum =
      (Sums.of points).y - line.slope * (Sums.of points).x - points.length * line.offset := by
  rw [Sums.of_eq]
  induction points with
  | nil => simp
  | cons p rest ih =>
    simp only [List.map_cons, List.sum_cons, List.length_cons, Nat.cast_succ] at ih ⊢
    rw [ih, Line.apply]
    ring

theorem sum_mul_sub_apply (points : List (ℚ × ℚ)) (line : Line ℚ) :
    (points.map fun p => p.1 * (p.2 - line.apply p.1)).sum =
      (Sums.of points).xy - line.slope * (Sums.of points).xx -
        line.offset * (Sums.of points).x := by
  rw [Sums.of_eq]
  induction points with
  | nil => simp
  | cons p rest ih =>
    simp only [List.map_cons, List.sum_cons] at ih ⊢
    rw [ih, Line.apply]
    ring

/-- The flat line at the mean. -/
theorem fit_of_upright (filled : points ≠ []) (upright : Upright points) :
    fit points = ⟨0, mean points⟩ := by
  have none_ := (spread_eq_zero_iff filled).mpr upright
  have total : (Sums.of points).y = (points.map Prod.snd).sum := by rw [Sums.of_eq]
  simp [fit, none_, mean, total]

theorem balanced_mean (filled : points ≠ []) (upright : Upright points) :
    Balanced ⟨0, mean points⟩ points := by
  have number := length_ne_zero filled
  have sum : (points.map fun p => p.2 - (⟨0, mean points⟩ : Line ℚ).apply p.1).sum = 0 := by
    rw [sum_sub_apply, mean, Sums.of_eq]
    field_simp
    ring
  refine ⟨sum, ?_⟩
  -- All weights are the same.
  obtain ⟨q, hq⟩ := List.exists_mem_of_ne_nil _ filled
  have weights : (points.map fun p => p.1 * (p.2 - (⟨0, mean points⟩ : Line ℚ).apply p.1)) =
      points.map fun p => q.1 * (p.2 - (⟨0, mean points⟩ : Line ℚ).apply p.1) :=
    List.map_congr_left fun p hp => by rw [upright p hp q hq]
  rw [weights, List.sum_map_mul_left, sum, mul_zero]

theorem balanced_fit (filled : points ≠ []) : Balanced (fit points) points := by
  by_cases upright : Upright points
  · rw [fit_of_upright filled upright]
    exact balanced_mean filled upright
  · have number := length_ne_zero filled
    have some_ := mt (spread_eq_zero_iff filled).mp upright
    have fitted : fit points =
        let s := Sums.of points
        let slope := (points.length * s.xy - s.x * s.y) / spread (points.length : ℚ) s
        ⟨slope, (s.y - slope * s.x) / points.length⟩ := by
      simp [fit, some_]
    rw [fitted]
    simp only [spread, ← sq] at some_ ⊢
    constructor
    · rw [sum_sub_apply]
      field_simp
      ring
    · rw [sum_mul_sub_apply]
      field_simp
      ring

/-- How much further away another line lies from the points. -/
theorem deviation_eq (balanced : Balanced line points) (other : Line ℚ) :
    deviation other points =
      deviation line points + (points.map fun p => (other.apply p.1 - line.apply p.1) ^ 2).sum := by
  have expand : deviation other points =
      deviation line points + (points.map fun p => (other.apply p.1 - line.apply p.1) ^ 2).sum -
        2 * ((other.slope - line.slope) *
            (points.map fun p => p.1 * (p.2 - line.apply p.1)).sum +
          (other.offset - line.offset) * (points.map fun p => p.2 - line.apply p.1).sum) := by
    clear balanced
    unfold deviation
    induction points with
    | nil => simp
    | cons p rest ih =>
      simp only [List.map_cons, List.sum_cons]
      rw [ih]
      simp only [Line.apply]
      ring
  rw [expand, balanced.sum, balanced.weighted]
  ring

theorem deviation_le (balanced : Balanced line points) (other : Line ℚ) :
    deviation line points ≤ deviation other points := by
  have further := sum_sq_nonneg (fun p : ℚ × ℚ => other.apply p.1 - line.apply p.1) points
  rw [deviation_eq balanced other]
  linarith

/-- Two lines that agree at two places are the same. -/
theorem line_eq {line other : Line ℚ} {x x' : ℚ} (apart : x ≠ x')
    (first : other.apply x = line.apply x) (second : other.apply x' = line.apply x') :
    other = line := by
  obtain ⟨slope, offset⟩ := line
  obtain ⟨slope', offset'⟩ := other
  simp only [Line.apply] at first second
  have same : (x - x') * (slope' - slope) = 0 := by linear_combination first - second
  obtain rfl : slope' = slope := by
    have factor := (mul_eq_zero_iff_left (sub_ne_zero.mpr apart)).mp same
    linarith
  obtain rfl : offset' = offset := by linarith
  rfl

theorem eq_of_deviation_le (balanced : Balanced line points) (leaning : ¬ Upright points)
    {other : Line ℚ} (near : deviation other points ≤ deviation line points) : other = line := by
  have further := sum_sq_nonneg (fun p : ℚ × ℚ => other.apply p.1 - line.apply p.1) points
  have nothing : (points.map fun p => (other.apply p.1 - line.apply p.1) ^ 2).sum = 0 := by
    rw [deviation_eq balanced other] at near
    linarith
  have agree := sum_sq_eq_zero_iff.mp nothing
  simp only [Upright, not_forall] at leaning
  obtain ⟨p, hp, q, hq, apart⟩ := leaning
  exact line_eq apart (sub_eq_zero.mp (agree p hp)) (sub_eq_zero.mp (agree q hq))

theorem deviation_eq_zero {a b : ℚ} (on : ∀ p ∈ points, p.2 = a * p.1 + b) :
    deviation ⟨a, b⟩ points = 0 := by
  refine sum_sq_eq_zero_iff.mpr fun p hp => ?_
  rw [on p hp, Line.apply]
  ring

end

/-- Fits a line in exact arithmetic, where all numbers are finite. -/
def leastSquaresExact (points : List (ℚ × ℚ)) : Except CalibrationError (Line ℚ) :=
  leastSquares (fun _ => true) points

theorem leastSquares_of_few {points : List (ℚ × ℚ)} (few : points.length < 3) :
    leastSquaresExact points = .error (.tooFewPoints points.length) :=
  if_pos few

theorem leastSquares_of_enough {points : List (ℚ × ℚ)} (enough : 3 ≤ points.length) :
    leastSquaresExact points = .ok (fit points) := by
  have finite : (points.findIdx? fun p => !true || !true) = none := by simp
  have admitted : ¬ points.length < minPoints := Nat.not_lt.mpr enough
  rw [leastSquaresExact, leastSquares, if_neg admitted, finite]

/-- The line of least squares, in exact arithmetic. Fewer than three points are refused. From three
points on there is a line; the denominator is zero exactly if all points have the same first
coordinate. No line lies nearer to the points; if the points have different first coordinates, no
other line lies as near, and if not, the line is the flat one at the mean. Points on a line give that
line back, unless all have the same first coordinate. The order of the points does not matter. -/
theorem leastSquares_is_nearest (points : List (ℚ × ℚ)) :
    (points.length < 3 → leastSquaresExact points = .error (.tooFewPoints points.length)) ∧
    (3 ≤ points.length → ∃ line, leastSquaresExact points = .ok line ∧
      (spread (points.length : ℚ) (Sums.of points) =
          points.length * (points.map fun p => p.1 * p.1).sum -
            (points.map Prod.fst).sum * (points.map Prod.fst).sum ∧
        (spread (points.length : ℚ) (Sums.of points) = 0 ↔ Upright points)) ∧
      (∀ other, deviation line points ≤ deviation other points) ∧
      (¬ Upright points →
        ∀ other, deviation other points ≤ deviation line points → other = line) ∧
      (Upright points → line = ⟨0, mean points⟩) ∧
      ∀ a b, (∀ p ∈ points, p.2 = a * p.1 + b) → ¬ Upright points → line = ⟨a, b⟩) ∧
    ∀ others : List (ℚ × ℚ), points.Perm others →
      leastSquaresExact others = leastSquaresExact points := by
  refine ⟨leastSquares_of_few, fun enough => ?_, fun others perm => ?_⟩
  · have filled : points ≠ [] := List.ne_nil_of_length_pos (by omega)
    have balanced := balanced_fit filled
    refine ⟨fit points, leastSquares_of_enough enough, ⟨by rw [Sums.of_eq, spread],
      spread_eq_zero_iff filled⟩, deviation_le balanced,
      fun leaning other => eq_of_deviation_le balanced leaning, fit_of_upright filled,
      fun a b on leaning => ?_⟩
    have near : deviation ⟨a, b⟩ points ≤ deviation (fit points) points := by
      rw [deviation_eq_zero on]
      exact sum_sq_nonneg _ points
    exact (eq_of_deviation_le balanced leaning near).symm
  · rcases Nat.lt_or_ge points.length 3 with few | enough
    · rw [leastSquares_of_few few, leastSquares_of_few (perm.length_eq ▸ few), perm.length_eq]
    · rw [leastSquares_of_enough enough, leastSquares_of_enough (perm.length_eq ▸ enough),
        fit_perm perm]

/-- Readings that do not lie on a line, in the order in which they were taken. -/
def noisyPoints : List (ℚ × ℚ) :=
  [(2, 21 / 10), (0, 1 / 10), (1, 9 / 10)]

theorem noisyPoints_nearest :
    leastSquaresExact noisyPoints = .ok ⟨1, 1 / 30⟩ ∧
      ∀ other, deviation other noisyPoints ≤ deviation ⟨1, 1 / 30⟩ noisyPoints →
        other = ⟨1, 1 / 30⟩ := by
  have value : leastSquaresExact noisyPoints = .ok ⟨1, 1 / 30⟩ := by decide +kernel
  obtain ⟨-, exact_, -⟩ := leastSquares_is_nearest noisyPoints
  obtain ⟨line, fitted, -, -, only, -⟩ := exact_ (by decide)
  rw [value] at fitted
  cases fitted
  refine ⟨value, only fun upright => ?_⟩
  have same := upright (2, 21 / 10) (by simp [noisyPoints]) (0, 1 / 10) (by simp [noisyPoints])
  exact absurd same (by norm_num)

end TelemetryRelay.Calibration
