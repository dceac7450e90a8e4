import FieldGraph.Geometry.Blend
import FieldGraph.Proofs.Number.Exact
import Mathlib

/-!
# Blends over exact numbers

The blends are written once for all numbers; here they are read at the rationals, where nothing is
rounded. The smooth minimum stays below the sharp one by a parabola in how far the distances are
apart, which ends where they are the smoothing width apart. The smooth maximum is its mirror image
and smooth removal a smooth maximum, so that the one gap bounds all three.
-/

namespace FieldGraph.Blend

open Scalar

variable (a b k : ℚ)

/-! ## Weights -/

/-- A number cut off at zero and one. -/
def unit (v : ℚ) : ℚ := max 0 (min v 1)

/-- Clamping to zero and one cuts off there. -/
theorem clamp_eq_unit (v : ℚ) : clamp v zero one = unit v := by
  rw [zero_eq, one_eq, unit]
  simp only [clamp, less_iff]
  split_ifs <;> grind

/-- What is missing to one is cut off the other way round. -/
theorem unit_one_sub (v : ℚ) : unit (1 - v) = 1 - unit v := by
  unfold unit
  grind

/-- The smooth minimum with its weight. -/
theorem union_eq : union a b k =
    let h := unit (1 / 2 + 1 / 2 * (b - a) / k)
    b * (1 - h) + a * h - k * h * (1 - h) := by
  rw [union, clamp_eq_unit, mix, half_eq, one_eq]

/-- The smooth maximum with its weight. -/
theorem intersection_eq : intersection a b k =
    let h := unit (1 / 2 - 1 / 2 * (b - a) / k)
    b * (1 - h) + a * h + k * h * (1 - h) := by
  rw [intersection, clamp_eq_unit, mix, half_eq, one_eq]

/-- Smooth removal with its weight. -/
theorem difference_eq : difference a b k =
    let h := unit (1 / 2 - 1 / 2 * (b + a) / k)
    a * (1 - h) + -b * h + k * h * (1 - h) := by
  rw [difference, clamp_eq_unit, mix, half_eq, one_eq]

/-! ## Dualities -/

/-- The smooth maximum is the smooth minimum with all signs changed. -/
theorem intersection_eq_neg_union : intersection a b k = -union (-a) (-b) k := by
  have hweight : 1 / 2 + 1 / 2 * (-b - -a) / k = 1 / 2 - 1 / 2 * (b - a) / k := by ring
  simp only [intersection_eq, union_eq, hweight]
  ring

/-- Removing a solid is meeting its complement: the arguments change places, and so the weight is
what was missing to one. -/
theorem difference_eq_intersection : difference a b k = intersection a (-b) k := by
  have hweight : 1 / 2 - 1 / 2 * (-b - a) / k = 1 - (1 / 2 - 1 / 2 * (b + a) / k) := by ring
  simp only [intersection_eq, difference_eq, hweight, unit_one_sub]
  ring

/-! ## The gap -/

variable {a b k}

/-- The weight of the smooth minimum as one fraction. -/
theorem weight_eq (hk : 0 < k) :
    1 / 2 + 1 / 2 * (b - a) / k = (k + b - a) / (2 * k) := by
  field_simp
  ring

/-- The smooth minimum of distances that are the width apart, or more, is the sharp one. -/
theorem union_of_le (hk : 0 < k) (h : k ≤ |a - b|) : union a b k = min a b := by
  have hwidth : 0 < 2 * k := by linarith
  rw [union_eq, weight_eq hk]
  rcases le_total a b with hab | hba
  · rw [abs_of_nonpos (sub_nonpos.mpr hab)] at h
    have hone : 1 ≤ (k + b - a) / (2 * k) := (one_le_div hwidth).mpr (by linarith)
    have hunit : unit ((k + b - a) / (2 * k)) = 1 := by
      rw [unit, min_eq_right hone, max_eq_right zero_le_one]
    rw [hunit, min_eq_left hab]
    ring
  · rw [abs_of_nonneg (sub_nonneg.mpr hba)] at h
    have hzero : (k + b - a) / (2 * k) ≤ 0 :=
      div_nonpos_of_nonpos_of_nonneg (by linarith) hwidth.le
    have hunit : unit ((k + b - a) / (2 * k)) = 0 := by
      rw [unit, min_eq_left (hzero.trans zero_le_one), max_eq_left hzero]
    rw [hunit, min_eq_right hba]
    ring

/-- The smooth minimum of closer distances is below the sharp one. -/
theorem union_of_lt (hk : 0 < k) (h : |a - b| < k) :
    union a b k = min a b - (k - |a - b|) ^ 2 / (4 * k) := by
  have hwidth : 0 < 2 * k := by linarith
  obtain ⟨hlow, hhigh⟩ := abs_lt.mp h
  have hone : (k + b - a) / (2 * k) ≤ 1 := (div_le_one hwidth).mpr (by linarith)
  have hzero : 0 ≤ (k + b - a) / (2 * k) := div_nonneg (by linarith) hwidth.le
  have hunit : unit ((k + b - a) / (2 * k)) = (k + b - a) / (2 * k) := by
    rw [unit, min_eq_left hone, max_eq_right hzero]
  rw [union_eq, weight_eq hk, hunit]
  rcases le_total a b with hab | hba
  · rw [min_eq_left hab, abs_of_nonpos (sub_nonpos.mpr hab)]
    field_simp
    ring
  · rw [min_eq_right hba, abs_of_nonneg (sub_nonneg.mpr hba)]
    field_simp
    ring

/-- How far the distances are from being the width apart. -/
def overlap (a b k : ℚ) : ℚ := max 0 (k - |a - b|)

/-- The smooth minimum is below the sharp one by a parabola in the overlap. -/
theorem union_eq_min_sub (hk : 0 < k) :
    union a b k = min a b - overlap a b k ^ 2 / (4 * k) := by
  rcases le_or_gt k |a - b| with hfar | hnear
  · rw [union_of_le hk hfar, overlap, max_eq_left (sub_nonpos.mpr hfar)]
    simp
  · rw [union_of_lt hk hnear, overlap, max_eq_right (sub_nonneg.mpr hnear.le)]

/-- The gap is at most a quarter of the width. -/
theorem gap_le (hk : 0 < k) : overlap a b k ^ 2 / (4 * k) ≤ k / 4 := by
  have hoverlap : overlap a b k ≤ k := max_le hk.le (sub_le_self k (abs_nonneg _))
  have hsquare : overlap a b k ^ 2 ≤ k ^ 2 := pow_le_pow_left₀ (le_max_left ..) hoverlap 2
  calc overlap a b k ^ 2 / (4 * k) ≤ k ^ 2 / (4 * k) := by gcongr
    _ = k / 4 := by field_simp

theorem gap_nonneg (hk : 0 < k) : 0 ≤ overlap a b k ^ 2 / (4 * k) := by positivity

/-- There is no gap exactly if the distances are the width apart or more. -/
theorem gap_eq_zero_iff (hk : 0 < k) : overlap a b k ^ 2 / (4 * k) = 0 ↔ k ≤ |a - b| := by
  have hwidth : 4 * k ≠ 0 := by positivity
  rw [div_eq_zero_iff, or_iff_left hwidth, pow_eq_zero_iff two_ne_zero, overlap, max_eq_left_iff,
    sub_nonpos]

/-- Over exact numbers and for every positive width: the smooth minimum is at most the sharp one
and at least that less a quarter of the width, equal to it exactly if the distances are the width
apart or more, and symmetric; the smooth maximum is the smooth minimum with all signs changed; and
smooth removal is the smooth maximum with the complement, at least the sharp one and at most that
and a quarter of the width. -/
theorem blends_follow_sharp (a b k : ℚ) (hk : 0 < k) :
    (min a b - k / 4 ≤ union a b k ∧ union a b k ≤ min a b) ∧
    (union a b k = min a b ↔ k ≤ |a - b|) ∧
    union a b k = union b a k ∧
    intersection a b k = -union (-a) (-b) k ∧
    difference a b k = intersection a (-b) k ∧
    max a (-b) ≤ difference a b k ∧ difference a b k ≤ max a (-b) + k / 4 := by
  have hdifference : difference a b k = -union (-a) b k := by
    rw [difference_eq_intersection, intersection_eq_neg_union, neg_neg]
  have hsharp : max a (-b) = -min (-a) b := by rw [← max_neg_neg, neg_neg]
  have hgap := gap_nonneg (a := a) (b := b) hk
  have hquarter := gap_le (a := a) (b := b) hk
  have hgap' := gap_nonneg (a := -a) (b := b) hk
  have hquarter' := gap_le (a := -a) (b := b) hk
  refine ⟨⟨?_, ?_⟩, ?_, ?_, intersection_eq_neg_union a b k, difference_eq_intersection a b k,
    ?_, ?_⟩
  · rw [union_eq_min_sub hk]
    linarith
  · rw [union_eq_min_sub hk]
    linarith
  · rw [union_eq_min_sub hk, sub_eq_self, gap_eq_zero_iff hk]
  · rw [union_eq_min_sub hk, union_eq_min_sub hk, min_comm, overlap, overlap, abs_sub_comm]
  · rw [hdifference, hsharp, union_eq_min_sub hk]
    linarith
  · rw [hdifference, hsharp, union_eq_min_sub hk]
    linarith

/-- Distances half of the width apart are blended: their smooth minimum is a sixteenth of the width
below the smaller one. -/
theorem blends_follow_sharp_halfApart :
    (0 : ℚ) < 2 ∧ union (3 : ℚ) 4 2 = 3 - 1 / 8 ∧
    (min (3 : ℚ) 4 - 2 / 4 ≤ union 3 4 2 ∧ union (3 : ℚ) 4 2 ≤ min 3 4) ∧
    union (3 : ℚ) 4 2 ≠ min 3 4 ∧ union (3 : ℚ) 4 2 = union 4 3 2 ∧
    max (3 : ℚ) (-4) ≤ difference 3 4 2 ∧ difference (3 : ℚ) 4 2 ≤ max 3 (-4) + 2 / 4 := by
  have hpos : (0 : ℚ) < 2 := by norm_num
  obtain ⟨hbounds, hsharp, hsymm, -, -, hlow, hhigh⟩ := blends_follow_sharp 3 4 2 hpos
  have hnear : ¬ (2 : ℚ) ≤ |3 - 4| := by norm_num [abs_of_neg]
  have hvalue : union (3 : ℚ) 4 2 = 3 - 1 / 8 := by
    rw [union_eq_min_sub hpos, overlap]
    norm_num
  exact ⟨hpos, hvalue, hbounds, fun heq => hnear (hsharp.mp heq), hsymm, hlow, hhigh⟩

end FieldGraph.Blend
