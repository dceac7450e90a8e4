import FieldGraph.Proofs.Number.Rounding

/-!
# The shortest decimal rounds back

The decimal that is written for a value lies in the rounding interval of the value, so that
reading it gives the value again. The search over grids cannot fail: the last grids are finer than
the interval is wide, and then the neighbour above the value lies in it.
-/

namespace FieldGraph.Decimal

/-- The number a decimal denotes. -/
def value (d : Decimal) : ℚ := d.digits * 10 ^ d.exponent

/-! ## Grids -/

/-- What clears the denominators of a comparison. -/
def clearing (i q : Int) : ℚ := 2 ^ (-q).toNat * 10 ^ (-i).toNat

theorem clearing_pos (i q : Int) : 0 < clearing i q := by
  unfold clearing
  positivity

/-- The first side of a comparison is the decimal. -/
theorem crossed_fst (n : Nat) (i : Int) (m : Nat) (q : Int) :
    ((crossed n i m q).1 : ℚ) = n * 10 ^ i * clearing i q := by
  have hpow : (10 : ℚ) ^ (-i).toNat ≠ 0 := by positivity
  rw [Binary.zpow_eq_div (by norm_num : (10 : ℚ) ≠ 0), clearing, crossed]
  simp only [Nat.pow_eq]
  push_cast
  field_simp

/-- The second side of a comparison is the binary number. -/
theorem crossed_snd (n : Nat) (i : Int) (m : Nat) (q : Int) :
    ((crossed n i m q).2 : ℚ) = m * 2 ^ q * clearing i q := by
  have hpow : (2 : ℚ) ^ (-q).toNat ≠ 0 := by positivity
  rw [Binary.zpow_eq_div two_ne_zero, clearing, crossed]
  simp only [Nat.pow_eq]
  push_cast
  field_simp

/-- The test for a rounding interval is membership. -/
theorem Interval.holds_iff (v : Interval) (n : Nat) (i : Int) :
    v.holds n i = true ↔ v.Contains (n * 10 ^ i) := by
  have hlow (m : Nat) (q : Int) : (crossed n i m q).2 ≤ (crossed n i m q).1 ↔
      (m : ℚ) * 2 ^ q ≤ n * 10 ^ i := by
    rw [← @Nat.cast_le ℚ, crossed_fst, crossed_snd, mul_le_mul_iff_left₀ (clearing_pos i q)]
  have hhigh (m : Nat) (q : Int) : (crossed n i m q).1 ≤ (crossed n i m q).2 ↔
      (n : ℚ) * 10 ^ i ≤ m * 2 ^ q := by
    rw [← @Nat.cast_le ℚ, crossed_fst, crossed_snd, mul_le_mul_iff_left₀ (clearing_pos i q)]
  simp only [Interval.holds, Interval.Contains, ← hlow, ← hhigh, ← not_le]
  split <;> simp

/-- A candidate lies in the interval. -/
theorem Interval.contains_of_candidate {v : Interval} {i : Int} {n : Nat}
    (h : v.candidate i = some n) : v.Contains (n * 10 ^ i) := by
  rw [← holds_iff]
  unfold candidate at h
  dsimp only at h
  split at h
  next hbelow habove =>
    split_ifs at h
    · rwa [← Option.some.inj h]
    · rwa [← Option.some.inj h]
    · rw [← Option.some.inj h]
      obtain hmod | hmod := Nat.mod_two_eq_zero_or_one
        ((crossed 1 i v.centre v.exponent).2 / (crossed 1 i v.centre v.exponent).1)
      · rwa [hmod]
      · rwa [hmod]
  next hbelow _ => rwa [← Option.some.inj h]
  next _ habove => rwa [← Option.some.inj h]
  next => cases h

/-- The value lies between its neighbours on a grid. -/
theorem Interval.neighbours (v : Interval) (i : Int) :
    let below := (crossed 1 i v.centre v.exponent).2 / (crossed 1 i v.centre v.exponent).1
    (below : ℚ) * 10 ^ i ≤ v.centre * 2 ^ v.exponent ∧
      (v.centre : ℚ) * 2 ^ v.exponent < (below + 1 : Nat) * 10 ^ i := by
  intro below
  have hclear := clearing_pos i v.exponent
  have hunit := crossed_fst 1 i v.centre v.exponent
  have hvalue := crossed_snd 1 i v.centre v.exponent
  rw [Nat.cast_one, one_mul] at hunit
  have hpos : 0 < (crossed 1 i v.centre v.exponent).1 := by
    rw [← @Nat.cast_pos ℚ, hunit]
    positivity
  have hle : below * (crossed 1 i v.centre v.exponent).1 ≤ (crossed 1 i v.centre v.exponent).2 :=
    Nat.div_mul_le_self ..
  have hlt : (crossed 1 i v.centre v.exponent).2 <
      (below + 1) * (crossed 1 i v.centre v.exponent).1 := by
    rw [mul_comm]
    exact Nat.lt_mul_div_succ _ hpos
  rw [← @Nat.cast_le ℚ, Nat.cast_mul, hunit, hvalue, ← mul_assoc, mul_le_mul_iff_left₀ hclear]
    at hle
  rw [← @Nat.cast_lt ℚ, Nat.cast_mul, hunit, hvalue, ← mul_assoc, mul_lt_mul_iff_left₀ hclear]
    at hlt
  exact ⟨hle, hlt⟩

/-- A grid finer than the interval above the value has a candidate. -/
theorem Interval.exists_candidate {v : Interval} {i : Int} (hlow : v.low ≤ v.centre)
    (hfine : (v.centre : ℚ) * 2 ^ v.exponent + 10 ^ i < v.high * 2 ^ v.exponent) :
    ∃ n, v.candidate i = some n := by
  obtain ⟨hbelow, habove⟩ := v.neighbours i
  have hpow : (0 : ℚ) < 2 ^ v.exponent := by positivity
  have hends : (v.low : ℚ) * 2 ^ v.exponent ≤ v.centre * 2 ^ v.exponent :=
    mul_le_mul_of_nonneg_right (by exact_mod_cast hlow) hpow.le
  have hholds := (v.holds_iff
    ((crossed 1 i v.centre v.exponent).2 / (crossed 1 i v.centre v.exponent).1 + 1) i).2 (by
      push_cast [add_mul] at habove ⊢
      unfold Contains
      split <;> constructor <;> linarith)
  unfold candidate
  dsimp only
  rw [hholds]
  cases v.holds ((crossed 1 i v.centre v.exponent).2 / (crossed 1 i v.centre v.exponent).1) i with
  | false => exact ⟨_, rfl⟩
  | true =>
    dsimp only
    split_ifs
    · exact ⟨_, rfl⟩
    · exact ⟨_, rfl⟩
    · exact ⟨_, rfl⟩

/-- A search that meets a candidate ends in the interval. -/
theorem Interval.contains_search {v : Interval} {tries : Nat} {i : Int}
    (h : ∃ j < tries, ∃ n, v.candidate (i - j) = some n) :
    v.Contains (v.search tries i).value := by
  induction tries generalizing i with
  | zero => obtain ⟨j, hj, -⟩ := h; omega
  | succ tries ih =>
    rw [search]
    split
    next n hn => exact contains_of_candidate hn
    next hnone =>
      obtain ⟨j, hj, n, hn⟩ := h
      obtain _ | j := j
      · rw [Nat.cast_zero, sub_zero, hnone] at hn
        cases hn
      · refine ih ⟨j, by omega, n, ?_⟩
        rw [← hn]
        congr 1
        push_cast
        ring

/-- Dropping trailing zeros keeps the number. -/
theorem value_trim (digits : Nat) (exponent : Int) (tries : Nat) :
    (trim digits exponent tries).value = (digits : ℚ) * 10 ^ exponent := by
  induction tries generalizing digits exponent with
  | zero => rfl
  | succ tries ih =>
    rw [trim]
    split_ifs with h
    · have hdigits : (digits : ℚ) = (digits / 10 : Nat) * 10 := by
        exact_mod_cast (Nat.div_mul_cancel (Nat.dvd_of_mod_eq_zero h.2)).symm
      rw [ih, hdigits, zpow_add_one₀ (by norm_num)]
      ring
    · rfl

/-! ## The first grid -/

/-- A positive natural is at least the power of ten of its first digit. -/
theorem pow_digitCount_le {n : Nat} (hn : 0 < n) : 10 ^ (digitCount n - 1) ≤ n := by
  by_contra hlt
  have hpos : 0 < digitCount n - 1 := by
    by_contra hzero
    rw [Nat.eq_zero_of_not_pos hzero] at hlt
    omega
  have := (Nat.length_toDigits_le_iff (by decide) hpos).2 (not_le.1 hlt)
  unfold digitCount digitChars at hpos
  unfold digitCount digitChars at this
  omega

/-- A natural is below the power of ten of its digit count. -/
theorem lt_pow_digitCount (n : Nat) : n < 10 ^ digitCount n :=
  (Nat.length_toDigits_le_iff (by decide) Nat.length_toDigits_pos).1 le_rfl

/-- A quotient is at least a tenth of the power of ten of its magnitude. -/
theorem zpow_magnitude_le {num den : Nat} (hnum : 0 < num) (hden : 0 < den) :
    (10 : ℚ) ^ (magnitude num den - 1) ≤ num / den := by
  have hd : (0 : ℚ) < den := by exact_mod_cast hden
  rw [le_div_iff₀ hd]
  unfold magnitude
  split
  next hle =>
    have hcount : 0 < digitCount (num / den) := Nat.length_toDigits_pos
    have hpow : ((digitCount (num / den) : Nat) : Int) - 1 =
        (digitCount (num / den) - 1 : Nat) := by omega
    have hnat := Nat.mul_le_mul_right den (pow_digitCount_le (Nat.div_pos hle hden))
    rw [hpow, zpow_natCast]
    exact_mod_cast hnat.trans (Nat.div_mul_le_self num den)
  next hlt =>
    have hcount : 0 < digitCount ((den - 1) / num) := Nat.length_toDigits_pos
    have hpow : -((digitCount ((den - 1) / num) - 1 : Nat) : Int) - 1 =
        -((digitCount ((den - 1) / num) : Nat) : Int) := by omega
    have hnat : den ≤ num * 10 ^ digitCount ((den - 1) / num) := by
      have := Nat.lt_mul_of_div_lt (lt_pow_digitCount ((den - 1) / num)) hnum
      rw [mul_comm] at this
      omega
    rw [hpow, zpow_neg, zpow_natCast, inv_mul_le_iff₀ (by positivity), mul_comm]
    exact_mod_cast hnat

/-- The quotient of a value is the value. -/
theorem fraction_div (m : Nat) (e : Int) :
    ((Binary.fraction m e).1 : ℚ) / (Binary.fraction m e).2 = m * 2 ^ e := by
  rw [Binary.zpow_eq_div two_ne_zero]
  unfold Binary.fraction
  split
  next he => simp [show (-e).toNat = 0 by omega]
  next he => simp [show e.toNat = 0 by omega, div_eq_mul_inv]

/-! ## Shortest decimals -/

/-- The digits of the last grid outweigh the bits of the format. -/
theorem two_pow_le_ten_pow (f : Binary.Format) :
    (2 : ℚ) ^ (f.fractionBits + 2) ≤ 10 ^ (f.fractionBits / 3 + 3) := by
  calc (2 : ℚ) ^ (f.fractionBits + 2) ≤ 2 ^ (3 * (f.fractionBits / 3 + 3)) :=
        pow_le_pow_right₀ one_le_two (by omega)
    _ = 8 ^ (f.fractionBits / 3 + 3) := by rw [pow_mul]; norm_num
    _ ≤ 10 ^ (f.fractionBits / 3 + 3) := pow_le_pow_left₀ (by norm_num) (by norm_num) _

/-- The grids reach below half the last place of a value. -/
theorem exists_fine_grid {f : Binary.Format} {m : Nat} {e : Int} (hc : f.Canonical m e) {i : Int}
    (hi : (10 : ℚ) ^ (i - 1) ≤ m * 2 ^ e) :
    ∃ j < grids f, (10 : ℚ) ^ (i - (j : Nat)) < 2 ^ (e - 1) := by
  refine ⟨f.fractionBits / 3 + 4, by unfold grids; omega, ?_⟩
  have hpow : (0 : ℚ) < 2 ^ (e - 1) := by positivity
  have hm : (m : ℚ) < 2 ^ (f.fractionBits + 1) := by
    have := hc.lt
    rw [Binary.Format.hidden, Nat.pow_eq] at this
    rw [pow_succ, mul_comm]
    exact_mod_cast this
  have hsplit : i - ((f.fractionBits / 3 + 4 : Nat) : Int) =
      i - 1 - ((f.fractionBits / 3 + 3 : Nat) : Int) := by push_cast; ring
  rw [hsplit, zpow_sub₀ (by norm_num), zpow_natCast, div_lt_iff₀ (by positivity)]
  calc (10 : ℚ) ^ (i - 1) ≤ m * 2 ^ e := hi
    _ < 2 ^ (f.fractionBits + 1) * 2 ^ e := by gcongr
    _ = 2 ^ (e - 1) * 2 ^ (f.fractionBits + 2) := by
        rw [zpow_sub_one₀ two_ne_zero]
        field_simp
        ring
    _ ≤ 2 ^ (e - 1) * 10 ^ (f.fractionBits / 3 + 3) := by
        gcongr
        exact two_pow_le_ten_pow f

/-- The shortest decimal of a value lies in its rounding interval. -/
theorem contains_shortest {f : Binary.Format} {m : Nat} {e : Int} (hc : f.Canonical m e) :
    (Interval.of f m e).Contains (shortest f m e).value := by
  obtain ⟨hnum, hden⟩ : 0 < (Binary.fraction m e).1 ∧ 0 < (Binary.fraction m e).2 := by
    unfold Binary.fraction
    split
    · exact ⟨Nat.mul_pos hc.pos (Nat.two_pow_pos _), Nat.one_pos⟩
    · exact ⟨hc.pos, Nat.two_pow_pos _⟩
  have hmagnitude := zpow_magnitude_le hnum hden
  rw [fraction_div] at hmagnitude
  obtain ⟨j, hj, hfine⟩ := exists_fine_grid hc hmagnitude
  have hlow : (Interval.of f m e).low ≤ (Interval.of f m e).centre := by
    simp only [Interval.of]
    split <;> omega
  have hquarter : (2 : ℚ) ^ (e - 1) = 2 * 2 ^ (e - 2) := by
    rw [← zpow_one_add₀ two_ne_zero]
    congr 1
    ring
  have hcandidate := Interval.exists_candidate hlow (i := magnitude _ _ - j) (by
    simp only [Interval.of]
    push_cast
    linarith)
  rw [shortest, value_trim]
  exact Interval.contains_search ⟨j, hj, hcandidate⟩

end FieldGraph.Decimal
