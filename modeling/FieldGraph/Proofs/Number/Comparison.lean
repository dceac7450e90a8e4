import FieldGraph.Number.Single
import Mathlib

/-!
# Floats that are numbers are ordered

The comparison of floats takes the signs apart and then looks at exponents and significands. On
numbers it is the order of one rank, so that it is as transitive as the order of integers. What is
not a number compares with nothing, itself included.
-/

namespace FieldGraph.Single

open Float.Model

/-- Where a number stands among all numbers: by its sign, its exponent and its significand. -/
def rank : UnpackedFloat → ℤ ×ₗ ℤ ×ₗ ℤ
  | .infinity .negative => toLex (-2, toLex (0, 0))
  | .finite .negative m e _ => toLex (-1, toLex (-e, -m))
  | .zero _ | .notANumber => toLex (0, toLex (0, 0))
  | .finite .positive m e _ => toLex (1, toLex (e, m))
  | .infinity .positive => toLex (2, toLex (0, 0))

/-- Pairs are compared by their first difference. -/
theorem compare_toLex {α β : Type} [Ord α] [Ord β] (a a' : α) (b b' : β) :
    compare (toLex (a, b)) (toLex (a', b')) = (compare a a').then (compare b b') := rfl

/-- A change of signs turns a comparison around. -/
theorem compare_neg_neg (a b : ℤ) : compare (-a) (-b) = (compare a b).swap := by
  rcases lt_trichotomy a b with h | rfl | h
  · rw [compare_lt_iff_lt.mpr h, compare_gt_iff_gt.mpr (by omega)]
    rfl
  · simp
  · rw [compare_gt_iff_gt.mpr h, compare_lt_iff_lt.mpr (by omega)]
    rfl

theorem compare_natCast (a b : ℕ) : compare (a : ℤ) (b : ℤ) = compare a b := by
  rcases lt_trichotomy a b with h | rfl | h
  · rw [compare_lt_iff_lt.mpr h, compare_lt_iff_lt.mpr (by omega)]
  · simp
  · rw [compare_gt_iff_gt.mpr h, compare_gt_iff_gt.mpr (by omega)]

/-- Numbers are compared by rank. -/
theorem compare_eq_rank {a b : UnpackedFloat} (ha : a ≠ .notANumber) (hb : b ≠ .notANumber) :
    a.compare b = some (compare (rank a) (rank b)) := by
  cases a with
  | notANumber => exact absurd rfl ha
  | infinity s =>
    cases b with
    | notANumber => exact absurd rfl hb
    | infinity t => cases s <;> cases t <;> rfl
    | zero t => cases s <;> rfl
    | finite t m e pos => cases s <;> cases t <;> rfl
  | zero s =>
    cases b with
    | notANumber => exact absurd rfl hb
    | infinity t => cases t <;> rfl
    | zero t => rfl
    | finite t m e pos => cases t <;> rfl
  | finite s m e pos =>
    cases b with
    | notANumber => exact absurd rfl hb
    | infinity t => cases s <;> cases t <;> rfl
    | zero t => cases s <;> rfl
    | finite t m' e' pos' =>
      -- Only two numbers with one sign are compared by more than their signs.
      cases s <;> cases t
      · simp only [rank, compare_toLex, compare_neg_neg, compare_natCast, UnpackedFloat.compare]
        simp [Ordering.swap_then]
      · rfl
      · rfl
      · simp only [rank, compare_toLex, compare_natCast, UnpackedFloat.compare]
        simp

/-- If floats compare, their ranks compare in the same way. -/
theorem compare_rank {a b : UnpackedFloat} {o : Ordering} (h : a.compare b = some o) :
    compare (rank a) (rank b) = o := by
  have ha : a ≠ .notANumber := by
    rintro rfl
    cases h
  have hb : b ≠ .notANumber := by
    rintro rfl
    cases a <;> cases h
  rw [compare_eq_rank ha hb] at h
  exact Option.some.inj h

theorem rank_le_of_le {a b : Float32} (h : a ≤ b) :
    rank a.toModel.unpack ≤ rank b.toModel.unpack := by
  have hle : (a.toModel.unpack.compare b.toModel.unpack).any (·.isLE) = true :=
    of_decide_eq_true h
  obtain ⟨o, hcompare, ho⟩ := (Option.any_eq_true _ _).mp hle
  rw [← compare_le_iff_le, compare_rank hcompare]
  rintro rfl
  cases ho

theorem rank_lt_of_lt {a b : Float32} (h : a < b) :
    rank a.toModel.unpack < rank b.toModel.unpack := by
  have hlt : (a.toModel.unpack.compare b.toModel.unpack == some .lt) = true := of_decide_eq_true h
  exact compare_lt_iff_lt.mp (compare_rank (beq_iff_eq.mp hlt))

/-- The ends of a range that holds a value are in order. -/
theorem not_lt_of_le_of_le {a b c : Float32} (hab : a ≤ b) (hbc : b ≤ c) : ¬ c < a := fun hca =>
  absurd (rank_lt_of_lt hca) ((rank_le_of_le hab).trans (rank_le_of_le hbc)).not_gt

end FieldGraph.Single
