import FieldGraph.Number.Scalar
import Mathlib

/-!
# Exact numbers

What the operations shared by floats and exact numbers are at the rationals: the library's own
order, maximum, minimum and distance from zero. The remainder is what is left above the last whole
multiple.
-/

namespace FieldGraph.Scalar

variable (a b : ℚ)

theorem natural_eq (n : ℕ) : (natural n : ℚ) = n := rfl

theorem zero_eq : (zero : ℚ) = 0 := Nat.cast_zero

theorem one_eq : (one : ℚ) = 1 := Nat.cast_one

theorem half_eq : (half : ℚ) = 1 / 2 := by simp [half, natural]

theorem less_iff : less a b = true ↔ a < b := decide_eq_true_iff

theorem atMost_iff : atMost a b = true ↔ a ≤ b := decide_eq_true_iff

theorem same_iff : same a b = true ↔ a = b := decide_eq_true_iff

theorem larger_eq_max : larger a b = max a b := (max_def a b).symm

theorem smaller_eq_min : smaller a b = min a b := (min_def a b).symm

theorem magnitude_eq_abs : magnitude a = |a| := by
  have hdef : magnitude a = if a < 0 then -a else a := rfl
  rcases lt_or_ge a 0 with hneg | hpos
  · rw [hdef, if_pos hneg, abs_of_neg hneg]
  · rw [hdef, if_neg hpos.not_gt, abs_of_nonneg hpos]

variable {a b}

/-- Above zero, cutting off a quotient is rounding it down. -/
theorem remainder_eq_sub_floor (ha : 0 ≤ a) (hb : 0 < b) : remainder a b = a - b * ⌊a / b⌋ := by
  have hdef : remainder a b = a - b * ((a / b).num.tdiv (a / b).den : ℤ) := rfl
  have hnum : 0 ≤ (a / b).num := Rat.num_nonneg.mpr (div_nonneg ha hb.le)
  rw [hdef, Int.tdiv_eq_ediv_of_nonneg hnum, Rat.floor_def']

/-- Between two neighbouring multiples the remainder is the distance from the lower one. -/
theorem remainder_of_lt (k : ℕ) (hb : 0 < b) (hlow : b * k ≤ a) (hhigh : a < b * (k + 1)) :
    remainder a b = a - b * k := by
  have ha : 0 ≤ a := (mul_nonneg hb.le k.cast_nonneg).trans hlow
  have hfloor : ⌊a / b⌋ = k := by
    rw [Int.floor_eq_iff, le_div_iff₀' hb, div_lt_iff₀' hb]
    exact_mod_cast And.intro hlow hhigh
  rw [remainder_eq_sub_floor ha hb, hfloor, Int.cast_natCast]

end FieldGraph.Scalar
