import FieldGraph.Number.Scalar

/-!
# Smooth blends of two distances

Each blend mixes its arguments by a clamped linear weight and adds a parabolic bump of height
at most a quarter of the smoothing width. Outside the width the weight is zero or one and the
blend is the sharp minimum or maximum.
-/

namespace FieldGraph.Blend

variable {α : Type} [Scalar α]

open Scalar

/-- Smooth minimum of two distances. -/
@[inline] def union (a b k : α) : α :=
  let h := clamp (half + half * (b - a) / k) zero one
  mix b a h - k * h * (one - h)

/-- Smooth maximum of two distances. -/
@[inline] def intersection (a b k : α) : α :=
  let h := clamp (half - half * (b - a) / k) zero one
  mix b a h + k * h * (one - h)

/-- Smooth removal of the second solid from the first. -/
@[inline] def difference (a b k : α) : α :=
  let h := clamp (half - half * (b + a) / k) zero one
  mix a (-b) h + k * h * (one - h)

end FieldGraph.Blend
