import FieldGraph.Proofs.Number.Rounding

/-!
# Nearest values

What a number rounds to, said without a function that rounds. Its competitors are all numbers with
a significand of the format; their exponents are bounded below only, so that a number beyond the
range of the format rounds to none of its values. The rounding interval of a value ends half way
to its neighbours, hence what lies in it rounds to the value.
-/

namespace FieldGraph.Binary

/-- The number a finite value denotes. -/
def number (negative : Bool) (significand : Nat) (exponent : Int) : ℚ :=
  if negative then -(significand * 2 ^ exponent) else significand * 2 ^ exponent

/-- A number with a significand of the format, however large its exponent. -/
def Format.Precise (f : Format) (q : ℚ) : Prop :=
  ∃ (m : Nat) (e : Int), m < 2 * f.hidden ∧ f.minExponent ≤ e ∧ |q| = m * 2 ^ e

/-- A number rounds to a value of a format, to the nearest one and a tie to the even one. -/
structure Format.RoundsTo (f : Format) (r : ℚ) (negative : Bool) (m : Nat) (e : Int) : Prop where
  /-- No number of the format is nearer. -/
  nearest : ∀ q, f.Precise q → |r - number negative m e| ≤ |r - q|
  /-- If another one is as near, the significand is even. -/
  even : ∀ q, f.Precise q → q ≠ number negative m e →
    |r - number negative m e| = |r - q| → m % 2 = 0

namespace Format

open Decimal

variable {f : Format} {m : Nat} {e : Int}

/-- Changing both signs does not matter for rounding. -/
theorem RoundsTo.neg {r : ℚ} (h : f.RoundsTo r false m e) : f.RoundsTo (-r) true m e := by
  have hnumber : number true m e = -number false m e := rfl
  have hflip (q : ℚ) : |-r - q| = |r - -q| := by
    rw [← abs_neg (-r - q)]
    congr 1
    ring
  have hprecise {q : ℚ} (hq : f.Precise q) : f.Precise (-q) := by
    unfold Precise
    rwa [abs_neg]
  constructor
  · intro q hq
    rw [hflip, hflip, hnumber, neg_neg]
    exact h.nearest _ (hprecise hq)
  · intro q hq hne htie
    rw [hflip, hflip, hnumber, neg_neg] at htie
    refine h.even _ (hprecise hq) ?_ htie
    rintro heq
    rw [hnumber, ← heq, neg_neg] at hne
    exact hne rfl

/-- Zero rounds to zero. -/
theorem roundsTo_zero (f : Format) (e : Int) : f.RoundsTo 0 false 0 e where
  nearest q _ := by
    simp [number]
  even _ _ _ _ := rfl

/-! ## Half way to the neighbours -/

/-- A significand with an exponent that is no smaller, in units of the smaller exponent. -/
theorem exists_multiple (n : Nat) {i : Int} (h : e ≤ i) :
    ∃ k : Nat, (n : ℚ) * 2 ^ i = k * 2 ^ e := by
  refine ⟨n * 2 ^ (i - e).toNat, ?_⟩
  push_cast
  rw [mul_assoc, ← zpow_natCast, ← zpow_add₀ two_ne_zero]
  congr 2
  omega

/-- A number with a smaller exponent lies below the binade of a value, by half a place. -/
theorem add_half_le {n : Nat} {i : Int} (hn : n < 2 * f.hidden) (h : i < e) :
    (n : ℚ) * 2 ^ i + 2 ^ e / 2 ≤ f.hidden * 2 ^ e := by
  have hle : (n : ℚ) + 1 ≤ 2 * f.hidden := by exact_mod_cast hn
  have hpow : (2 : ℚ) ^ i ≤ 2 ^ (e - 1) := zpow_le_zpow_right₀ one_le_two (by omega)
  have hhalf : (2 : ℚ) ^ e = 2 * 2 ^ (e - 1) := by
    rw [← zpow_one_add₀ two_ne_zero]
    congr 1
    ring
  have hscaled : (n : ℚ) * 2 ^ i ≤ n * 2 ^ (e - 1) := by gcongr
  rw [hhalf]
  nlinarith [zpow_pos (two_pos : (0 : ℚ) < 2) (e - 1)]

/-- The rounding interval ends no lower than half way to a smaller number. -/
theorem Canonical.add_le_low (hc : f.Canonical m e) {n : Nat} {i : Int}
    (hn : n < 2 * f.hidden) (hleast : f.minExponent ≤ i)
    (hlt : (n : ℚ) * 2 ^ i < m * 2 ^ e) :
    (n : ℚ) * 2 ^ i + m * 2 ^ e ≤ (Interval.of f m e).low * (2 ^ e / 2) := by
  have hpow : (0 : ℚ) < 2 ^ e := by positivity
  have hlow := Interval.le_low_of f m e hc.pos
  by_cases hexponent : e ≤ i
  · -- On the grid of the value the smaller number is at least a place below.
    obtain ⟨k, hk⟩ := exists_multiple n hexponent
    rw [hk] at hlt ⊢
    have hstep : (k : ℚ) + 1 ≤ m := by
      exact_mod_cast Nat.succ_le_of_lt (by exact_mod_cast lt_of_mul_lt_mul_right hlt hpow.le)
    nlinarith
  · -- Off it the smaller number lies below the binade, whose first value has a finer grid below.
    have hbelow := add_half_le hn (not_le.1 hexponent)
    have hge : f.hidden ≤ m := hc.full.resolve_right (by omega)
    by_cases hfirst : m = f.hidden
    · have hnat : (Interval.of f m e).low + 1 = 4 * m := by
        have hpos := hc.pos
        simp only [Interval.of, if_pos (And.intro hfirst (by omega : f.minExponent < e))]
        omega
      have hends : ((Interval.of f m e).low : ℚ) + 1 = 4 * m := by exact_mod_cast hnat
      rw [← hfirst] at hbelow
      nlinarith
    · have hgt : (f.hidden : ℚ) + 1 ≤ m := by exact_mod_cast lt_of_le_of_ne hge (Ne.symm hfirst)
      nlinarith

/-- Nor does it end higher than half way to a larger number. -/
theorem Canonical.high_le_add (hc : f.Canonical m e) {n : Nat} {i : Int}
    (hn : n < 2 * f.hidden) (hleast : f.minExponent ≤ i)
    (hlt : (m : ℚ) * 2 ^ e < n * 2 ^ i) :
    (4 * m + 2) * (2 ^ e / 2) ≤ (n : ℚ) * 2 ^ i + m * 2 ^ e := by
  have hpow : (0 : ℚ) < 2 ^ e := by positivity
  have hexponent : e ≤ i := by
    by_contra hexponent
    have hbelow := add_half_le hn (not_le.1 hexponent)
    have hge : (f.hidden : ℚ) ≤ m := by exact_mod_cast hc.full.resolve_right (by omega)
    nlinarith
  obtain ⟨k, hk⟩ := exists_multiple n hexponent
  rw [hk] at hlt ⊢
  have hstep : (m : ℚ) + 1 ≤ k := by
    exact_mod_cast Nat.succ_le_of_lt (by exact_mod_cast lt_of_mul_lt_mul_right hlt hpow.le)
  nlinarith

/-- A number of the format below a value is no further up than the mirror image of the value at
the lower end of its rounding interval. -/
theorem Canonical.below (hc : f.Canonical m e) {q : ℚ} (hq : f.Precise q) (hlt : q < m * 2 ^ e) :
    q + m * 2 ^ e ≤ (Interval.of f m e).low * (2 ^ e / 2) := by
  obtain ⟨n, i, hn, hleast, habs⟩ := hq
  rcases le_or_gt 0 q with hsign | hsign
  · rw [abs_of_nonneg hsign] at habs
    rw [habs] at hlt ⊢
    exact hc.add_le_low hn hleast hlt
  · -- Zero is a number of the format as well.
    have hpos : (0 : ℚ) < m * 2 ^ e := mul_pos (by exact_mod_cast hc.pos) (by positivity)
    have hzero := hc.add_le_low (n := 0) (by have := hc.lt; omega) le_rfl
      (by rwa [Nat.cast_zero, zero_mul])
    rw [Nat.cast_zero, zero_mul] at hzero
    linarith

/-- A number of the format above a value is no further down than its mirror image at the upper
end. -/
theorem Canonical.above (hc : f.Canonical m e) {q : ℚ} (hq : f.Precise q) (hlt : m * 2 ^ e < q) :
    (4 * m + 2) * (2 ^ e / 2) ≤ q + m * 2 ^ e := by
  obtain ⟨n, i, hn, hleast, habs⟩ := hq
  have hpos : (0 : ℚ) ≤ m * 2 ^ e := by positivity
  rw [abs_of_nonneg (hpos.trans hlt.le)] at habs
  rw [habs] at hlt ⊢
  exact hc.high_le_add hn hleast hlt

/-- A number in the rounding interval of a value is at least as near to it as to any other number
of the format, and nearer if the interval is open. -/
theorem Canonical.nearer (hc : f.Canonical m e) {r q : ℚ} (h : (Interval.of f m e).Contains r)
    (hq : f.Precise q) (hne : q ≠ m * 2 ^ e) :
    if m % 2 = 0 then |r - m * 2 ^ e| ≤ |r - q| else |r - m * 2 ^ e| < |r - q| := by
  have hpow : (0 : ℚ) < 2 ^ e := by positivity
  have hscale : r / 2 ^ e * 2 ^ e = r := div_mul_cancel₀ r hpow.ne'
  rw [Interval.contains_of_iff] at h
  rcases lt_or_gt_of_ne hne with hlt | hlt
  · have hbelow := hc.below hq hlt
    split at h
    next heven =>
      have hside : q + m * 2 ^ e ≤ 2 * r := by nlinarith [h.1]
      rw [if_pos heven, abs_of_nonneg (by linarith : 0 ≤ r - q), abs_le]
      constructor <;> linarith
    next hodd =>
      have hside : q + m * 2 ^ e < 2 * r := by nlinarith [h.1]
      rw [if_neg hodd, abs_of_nonneg (by linarith : 0 ≤ r - q), abs_lt]
      constructor <;> linarith
  · have habove := hc.above hq hlt
    split at h
    next heven =>
      have hside : 2 * r ≤ q + m * 2 ^ e := by nlinarith [h.2]
      rw [if_pos heven, abs_of_nonpos (by linarith : r - q ≤ 0), abs_le]
      constructor <;> linarith
    next hodd =>
      have hside : 2 * r < q + m * 2 ^ e := by nlinarith [h.2]
      rw [if_neg hodd, abs_of_nonpos (by linarith : r - q ≤ 0), abs_lt]
      constructor <;> linarith

/-- A number in the rounding interval of a value rounds to it. -/
theorem Canonical.roundsTo (hc : f.Canonical m e) {r : ℚ} (h : (Interval.of f m e).Contains r) :
    f.RoundsTo r false m e where
  nearest q hq := by
    change |r - m * 2 ^ e| ≤ |r - q|
    by_cases heq : q = m * 2 ^ e
    · rw [heq]
    · have hnearer := hc.nearer h hq heq
      split at hnearer
      · exact hnearer
      · exact hnearer.le
  even q hq hne htie := by
    have hnearer := hc.nearer h hq hne
    by_contra hodd
    rw [if_neg hodd] at hnearer
    exact hnearer.ne htie

end Format

end FieldGraph.Binary
