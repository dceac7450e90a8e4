import FieldGraph.Number.Shortest
import Mathlib.Algebra.Order.Field.Power
import Mathlib.Algebra.Order.Ring.Rat
import Mathlib.Tactic.FieldSimp
import Mathlib.Tactic.Linarith
import Mathlib.Tactic.Positivity
import Mathlib.Tactic.Ring

/-!
# Rounding to a format

Rounding sends a quotient of naturals to the value in whose rounding interval it lies. Away from
powers of two this is rounding to the nearest significand of one binade. Just below a power of two
the spacing is half as wide, and rounding up fills the significand, which renormalises.
-/

namespace FieldGraph.Binary

/-! ## Nearest naturals -/

/-- A natural is at most one half away from a number, and even if it is that far. -/
def Nearest (r : ℚ) (n : Nat) : Prop :=
  if n % 2 = 0 then 2 * n - 1 ≤ 2 * r ∧ 2 * r ≤ 2 * n + 1
  else 2 * n - 1 < 2 * r ∧ 2 * r < 2 * n + 1

/-- Being nearest to a quotient, cleared of the denominator. -/
theorem nearest_div_iff {num den n : Nat} (hden : 0 < den) :
    Nearest (num / den) n ↔
      if n % 2 = 0 then 2 * n * den ≤ 2 * num + den ∧ 2 * num ≤ 2 * n * den + den
      else 2 * n * den < 2 * num + den ∧ 2 * num < 2 * n * den + den := by
  have hd : (0 : ℚ) < den := by exact_mod_cast hden
  simp only [Nearest, ← mul_div_assoc, le_div_iff₀ hd, div_le_iff₀ hd, lt_div_iff₀ hd,
    div_lt_iff₀ hd, sub_mul, add_mul, one_mul, sub_le_iff_le_add, sub_lt_iff_lt_add]
  norm_cast

/-- Division to the nearest natural finds it. -/
theorem roundDiv_eq {num den n : Nat} (hden : 0 < den) (h : Nearest (num / den) n) :
    roundDiv num den = n := by
  rw [nearest_div_iff hden] at h
  have hdiv := Nat.div_add_mod num den
  have hmod := Nat.mod_lt num hden
  have hbounds : 2 * n * den ≤ 2 * num + den ∧ 2 * num ≤ 2 * n * den + den := by
    split at h <;> omega
  have hlow : num / den ≤ n := by
    by_contra hlt
    have hstep : (n + 1) * den ≤ num / den * den := Nat.mul_le_mul_right den (by omega)
    have hle := Nat.div_mul_le_self num den
    nlinarith
  have hhigh : n ≤ num / den + 1 := by
    by_contra hlt
    have hstep : (num / den + 2) * den ≤ n * den := Nat.mul_le_mul_right den (by omega)
    nlinarith
  simp only [roundDiv, Bool.or_eq_true, decide_eq_true_eq, Bool.and_eq_true, beq_iff_eq]
  obtain heq | heq : n = num / den ∨ n = num / den + 1 := by omega
  · have hprod : 2 * n * den = 2 * (den * (num / den)) := by rw [heq]; ring
    rw [hprod] at h
    split at h <;> split <;> omega
  · have hprod : 2 * n * den = 2 * (den * (num / den)) + 2 * den := by rw [heq]; ring
    rw [hprod] at h
    split at h <;> split <;> omega

/-- A power as a quotient of powers with natural exponents. -/
theorem zpow_eq_div {b : ℚ} (hb : b ≠ 0) (i : Int) : b ^ i = b ^ i.toNat / b ^ (-i).toNat := by
  rw [← zpow_natCast, ← zpow_natCast, ← zpow_sub₀ hb]
  congr 1
  omega

/-- Scaled rounding finds the nearest natural. -/
theorem roundScaled_eq {num den n : Nat} {shift : Int} (hden : 0 < den)
    (h : Nearest (num / den / 2 ^ shift) n) : roundScaled num den shift = n := by
  rw [zpow_eq_div two_ne_zero] at h
  unfold roundScaled
  split
  next hshift =>
    apply roundDiv_eq (Nat.mul_pos hden (Nat.two_pow_pos _))
    rw [show (-shift).toNat = 0 by omega, pow_zero, div_one, div_div] at h
    push_cast
    exact h
  next hshift =>
    apply roundDiv_eq hden
    rw [show shift.toNat = 0 by omega, pow_zero, div_div_eq_mul_div, div_one, div_mul_eq_mul_div]
      at h
    rw [Nat.pow_eq]
    push_cast
    exact h

/-! ## Leading exponents -/

/-- Whether a quotient reaches a power of two. -/
theorem reached_iff (num : Nat) {den : Nat} (hden : 0 < den) (e : Int) :
    (if 0 ≤ e then den * Nat.pow 2 e.toNat ≤ num else den ≤ num * Nat.pow 2 (-e).toNat) ↔
      (2 : ℚ) ^ e ≤ num / den := by
  have hd : (0 : ℚ) < den := by exact_mod_cast hden
  rw [le_div_iff₀ hd, zpow_eq_div two_ne_zero, div_mul_eq_mul_div, div_le_iff₀ (by positivity)]
  split
  next he =>
    rw [show (-e).toNat = 0 by omega, pow_zero, mul_one, mul_comm]
    norm_cast
  next he =>
    rw [show e.toNat = 0 by omega, pow_zero, one_mul]
    norm_cast

/-- The leading exponent of a quotient names its binade. -/
theorem leadingExponent_spec {num den : Nat} (hnum : 0 < num) (hden : 0 < den) :
    (2 : ℚ) ^ leadingExponent num den ≤ num / den ∧
      (num / den : ℚ) < 2 ^ (leadingExponent num den + 1) := by
  have hd : (0 : ℚ) < den := by exact_mod_cast hden
  have hnlow : (2 : ℚ) ^ num.log2 ≤ num := by exact_mod_cast Nat.log2_self_le hnum.ne'
  have hnhigh : (num : ℚ) < 2 ^ (num.log2 + 1) := by exact_mod_cast Nat.lt_log2_self
  have hdlow : (2 : ℚ) ^ den.log2 ≤ den := by exact_mod_cast Nat.log2_self_le hden.ne'
  have hdhigh : (den : ℚ) < 2 ^ (den.log2 + 1) := by exact_mod_cast Nat.lt_log2_self
  have hlow : (2 : ℚ) ^ ((num.log2 : Int) - den.log2 - 1) ≤ num / den := by
    rw [le_div_iff₀ hd]
    calc (2 : ℚ) ^ ((num.log2 : Int) - den.log2 - 1) * den
        ≤ 2 ^ ((num.log2 : Int) - den.log2 - 1) * 2 ^ (den.log2 + 1) := by gcongr
      _ = 2 ^ num.log2 := by
          rw [← zpow_natCast, ← zpow_add₀ two_ne_zero, ← zpow_natCast]
          congr 1
          push_cast
          ring
      _ ≤ num := hnlow
  have hhigh : (num / den : ℚ) < 2 ^ ((num.log2 : Int) - den.log2 + 1) := by
    rw [div_lt_iff₀ hd]
    calc (num : ℚ) < 2 ^ (num.log2 + 1) := hnhigh
      _ = 2 ^ ((num.log2 : Int) - den.log2 + 1) * 2 ^ den.log2 := by
          rw [← zpow_natCast, ← zpow_natCast, ← zpow_add₀ two_ne_zero]
          congr 1
          push_cast
          ring
      _ ≤ 2 ^ ((num.log2 : Int) - den.log2 + 1) * den := by gcongr
  unfold leadingExponent
  have hreached := reached_iff num hden ((num.log2 : Int) - den.log2)
  by_cases h : (2 : ℚ) ^ ((num.log2 : Int) - den.log2) ≤ num / den
  · rw [if_pos (hreached.2 h)]
    exact ⟨h, hhigh⟩
  · rw [if_neg (mt hreached.1 h), sub_add_cancel]
    exact ⟨hlow, not_le.1 h⟩

/-! ## Rounding intervals -/

/-- The significand and exponent of a positive value of a format. -/
structure Format.Canonical (f : Format) (significand : Nat) (exponent : Int) : Prop where
  pos : 0 < significand
  lt : significand < 2 * f.hidden
  least : f.minExponent ≤ exponent
  most : exponent ≤ f.maxExponent
  full : f.hidden ≤ significand ∨ exponent = f.minExponent

end FieldGraph.Binary

namespace FieldGraph.Decimal

/-- A number lies in an interval. -/
def Interval.Contains (v : Interval) (r : ℚ) : Prop :=
  if v.closed then v.low * 2 ^ v.exponent ≤ r ∧ r ≤ v.high * 2 ^ v.exponent
  else v.low * 2 ^ v.exponent < r ∧ r < v.high * 2 ^ v.exponent

/-- The lower end of a rounding interval is at most half a place below the value. -/
theorem Interval.le_low_of (f : Binary.Format) (m : Nat) (e : Int) (hm : 0 < m) :
    4 * (m : ℚ) - 2 ≤ (Interval.of f m e).low := by
  have h : 4 * m ≤ (Interval.of f m e).low + 2 := by
    simp only [Interval.of]
    split <;> omega
  have hq : (4 * m : ℚ) ≤ (Interval.of f m e).low + 2 := by exact_mod_cast h
  linarith

/-- Lying in a rounding interval, in quarters of the last place. -/
theorem Interval.contains_of_iff (f : Binary.Format) (m : Nat) (e : Int) (r : ℚ) :
    (Interval.of f m e).Contains r ↔
      if m % 2 = 0 then
        ((Interval.of f m e).low : ℚ) ≤ 4 * (r / 2 ^ e) ∧ 4 * (r / 2 ^ e) ≤ 4 * m + 2
      else ((Interval.of f m e).low : ℚ) < 4 * (r / 2 ^ e) ∧ 4 * (r / 2 ^ e) < 4 * m + 2 := by
  have hpow : (0 : ℚ) < 2 ^ e := by positivity
  have hfour : (0 : ℚ) < 4 := by norm_num
  have hunit : (2 : ℚ) ^ (e - 2) = 2 ^ e / 4 := by
    rw [zpow_sub₀ two_ne_zero]
    norm_num
  have hhigh : ((Interval.of f m e).high : ℚ) = 4 * m + 2 := by
    simp [Interval.of]
  have hexponent : (Interval.of f m e).exponent = e - 2 := rfl
  have hclosed : (Interval.of f m e).closed = true ↔ m % 2 = 0 := by simp [Interval.of]
  simp only [Contains, hexponent, hunit, hhigh, hclosed, ← mul_div_assoc, le_div_iff₀ hpow,
    div_le_iff₀ hpow, lt_div_iff₀ hpow, div_lt_iff₀ hpow,
    div_le_iff₀ hfour, le_div_iff₀ hfour, div_lt_iff₀ hfour, lt_div_iff₀ hfour, mul_comm r 4]

/-- What lies in the rounding interval of a value is nearest to its significand. -/
theorem Interval.nearest_of_contains {f : Binary.Format} {m : Nat} {e : Int} {r : ℚ} (hm : 0 < m)
    (h : (Interval.of f m e).Contains r) : Binary.Nearest (r / 2 ^ e) m := by
  have hlow := Interval.le_low_of f m e hm
  rw [contains_of_iff] at h
  unfold Binary.Nearest
  split at h
  next heven =>
    rw [if_pos heven]
    constructor <;> linarith
  next hodd =>
    rw [if_neg hodd]
    constructor <;> linarith

/-- Zero lies in no rounding interval of a positive value. -/
theorem Interval.Contains.ne_zero {f : Binary.Format} {m : Nat} {e : Int} {r : ℚ}
    (h : (Interval.of f m e).Contains r) (hm : 0 < m) : r ≠ 0 := by
  rintro rfl
  have hnear := Interval.nearest_of_contains hm h
  have hone : (1 : ℚ) ≤ m := by exact_mod_cast hm
  rw [zero_div] at hnear
  unfold Binary.Nearest at hnear
  split at hnear <;> linarith [hnear.1]

end FieldGraph.Decimal

namespace FieldGraph.Binary

open Decimal

section

variable {f : Format} {m num den : Nat} {e : Int}

/-- The full significand times a power of two. -/
theorem hidden_mul (f : Format) (e : Int) : (f.hidden : ℚ) * 2 ^ e = 2 ^ (e + f.fractionBits) := by
  rw [Format.hidden, Nat.pow_eq, zpow_add₀ two_ne_zero, zpow_natCast, mul_comm]
  push_cast
  rfl

/-- A number in the rounding interval lies below the next binade. -/
theorem leadingExponent_le (hc : f.Canonical m e) (hnum : 0 < num) (hden : 0 < den)
    (h : (Interval.of f m e).Contains (num / den)) :
    leadingExponent num den ≤ e + f.fractionBits := by
  have hpow : (0 : ℚ) < 2 ^ e := by positivity
  have hnear := Interval.nearest_of_contains hc.pos h
  have hm : (m : ℚ) + 1 ≤ 2 * f.hidden := by exact_mod_cast hc.lt
  have hlt : (num / den / 2 ^ e : ℚ) < 2 * f.hidden := by
    unfold Nearest at hnear
    split at hnear <;> linarith [hnear.2]
  have htop : (num / den : ℚ) < 2 ^ (e + f.fractionBits + 1) := by
    rw [div_lt_iff₀ hpow, mul_assoc, hidden_mul] at hlt
    rwa [zpow_add_one₀ two_ne_zero, mul_comm]
  have hlead := (leadingExponent_spec hnum hden).1.trans_lt htop
  have := (zpow_lt_zpow_iff_right₀ one_lt_two).1 hlead
  omega

/-- A number that reaches the binade of the value it rounds to has its exponent. -/
theorem leadingExponent_eq (hc : f.Canonical m e) (hnum : 0 < num) (hden : 0 < den)
    (h : (Interval.of f m e).Contains (num / den))
    (hfull : (f.hidden : ℚ) ≤ num / den / 2 ^ e) :
    leadingExponent num den = e + f.fractionBits := by
  have hpow : (0 : ℚ) < 2 ^ e := by positivity
  rw [le_div_iff₀ hpow, hidden_mul] at hfull
  have hlead := hfull.trans_lt (leadingExponent_spec hnum hden).2
  have hle := leadingExponent_le hc hnum hden h
  have := (zpow_lt_zpow_iff_right₀ one_lt_two).1 hlead
  omega

/-- A number in the rounding interval that does not reach the binade of the value lies just below
the power of two that starts it. -/
theorem eq_hidden_of_lt (hc : f.Canonical m e) (hlow : f.minExponent < e)
    (h : (Interval.of f m e).Contains (num / den))
    (hlt : (num / den / 2 ^ e : ℚ) < f.hidden) :
    m = f.hidden ∧ 4 * (f.hidden : ℚ) - 1 ≤ 4 * (num / den / 2 ^ e) := by
  have hge : f.hidden ≤ m := hc.full.resolve_right hlow.ne'
  have hle : ((Interval.of f m e).low : ℚ) ≤ 4 * (num / den / 2 ^ e) := by
    rw [Interval.contains_of_iff] at h
    split at h
    · exact h.1
    · exact h.1.le
  have hm : m = f.hidden := by
    by_contra hne
    have hgt : (f.hidden : ℚ) + 1 ≤ m := by exact_mod_cast lt_of_le_of_ne hge (Ne.symm hne)
    linarith [Interval.le_low_of f m e hc.pos]
  have hnat : (Interval.of f m e).low + 1 = 4 * f.hidden := by
    have hpos := hc.pos
    simp only [Interval.of, hm, true_and, hlow, if_true]
    omega
  have hq : ((Interval.of f m e).low : ℚ) + 1 = 4 * f.hidden := by exact_mod_cast hnat
  exact ⟨hm, by linarith⟩

/-- A number just below a binade has the exponent before it. -/
theorem leadingExponent_below (hnum : 0 < num) (hden : 0 < den)
    (hhalf : (num / den / 2 ^ (e - 1) : ℚ) = 2 * (num / den / 2 ^ e))
    (hnear : 4 * (f.hidden : ℚ) - 1 ≤ 4 * (num / den / 2 ^ e))
    (hlt : (num / den / 2 ^ e : ℚ) < f.hidden) :
    leadingExponent num den = e - 1 + f.fractionBits := by
  have hpos : (1 : ℚ) ≤ f.hidden := by exact_mod_cast Nat.two_pow_pos f.fractionBits
  have hlow : (f.hidden : ℚ) ≤ num / den / 2 ^ (e - 1) := by rw [hhalf]; linarith
  rw [le_div_iff₀ (by positivity), hidden_mul] at hlow
  rw [div_lt_iff₀ (by positivity), hidden_mul] at hlt
  obtain ⟨hspec, hspec'⟩ := leadingExponent_spec hnum hden
  have h₁ := (zpow_lt_zpow_iff_right₀ one_lt_two).1 (hspec.trans_lt hlt)
  have h₂ := (zpow_lt_zpow_iff_right₀ one_lt_two).1 (hlow.trans_lt hspec')
  omega

/-- Rounding a number in the rounding interval of a value gives the value. -/
theorem roundPositive_eq (hc : f.Canonical m e) (hnum : 0 < num) (hden : 0 < den)
    (h : (Interval.of f m e).Contains (num / den)) :
    roundPositive (f.fractionBits + 1) (some f.minExponent) num den = (m, e) := by
  have hleast := hc.least
  have hdouble : Nat.pow 2 (f.fractionBits + 1) = 2 * f.hidden := by
    rw [Format.hidden, Nat.pow_eq, Nat.pow_eq, Nat.pow_succ, Nat.mul_comm]
  have hsub : (f.fractionBits + 1 - 1 : Nat) = f.fractionBits := rfl
  simp only [roundPositive, hsub, hdouble]
  by_cases hbinade : (f.hidden : ℚ) ≤ num / den / 2 ^ e ∨ e = f.minExponent
  · -- Within the binade the significand is the nearest one.
    have hexponent : max (leadingExponent num den - f.fractionBits) f.minExponent = e := by
      rcases hbinade with hfull | rfl
      · have := leadingExponent_eq hc hnum hden h hfull
        omega
      · have := leadingExponent_le hc hnum hden h
        omega
    rw [hexponent, roundScaled_eq hden (Interval.nearest_of_contains hc.pos h),
      if_neg hc.lt.ne]
  · -- Just below it the significand fills up on the finer grid.
    obtain ⟨hlt, hmin⟩ := not_or.1 hbinade
    have hlow : f.minExponent < e := lt_of_le_of_ne hleast (Ne.symm hmin)
    obtain ⟨rfl, hnear⟩ := eq_hidden_of_lt hc hlow h (not_le.1 hlt)
    have hhalf : (num / den / 2 ^ (e - 1) : ℚ) = 2 * (num / den / 2 ^ e) := by
      rw [zpow_sub_one₀ two_ne_zero]
      field_simp
    have hnext : Nearest (num / den / 2 ^ (e - 1)) (2 * f.hidden) := by
      rw [Nearest, if_pos (Nat.mul_mod_right 2 f.hidden), hhalf]
      push_cast
      constructor <;> linarith [not_le.1 hlt]
    have hexponent := leadingExponent_below hnum hden hhalf hnear (not_le.1 hlt)
    rw [show max (leadingExponent num den - f.fractionBits) f.minExponent = e - 1 by omega,
      roundScaled_eq hden hnext, if_pos rfl, sub_add_cancel]
    rfl

/-- Rounding a number in the rounding interval of a value to the format gives the value. -/
theorem Format.round_eq (hc : f.Canonical m e) (negative : Bool) (hnum : 0 < num) (hden : 0 < den)
    (h : (Interval.of f m e).Contains (num / den)) :
    f.round negative num den = .finite negative m e := by
  rw [round, if_neg hnum.ne', roundPositive_eq hc hnum hden h]
  exact if_neg (not_lt.2 hc.most)

end

end FieldGraph.Binary
