import FieldGraph.Proofs.Number.Single

/-!
# Floats that compare equal

Floats that compare equal are the same, except that the two zeros compare equal. What is computed
from the magnitude of a float alone therefore does not tell equal floats apart.
-/

namespace FieldGraph.Single

open Float.Model
open UnpackedFloat (unpackExponent unpackMantissa)

/-- A float is determined by what its word stands for. -/
theorem eq_of_unpack_eq {x y : Float32} (h : x.toModel.unpack = y.toModel.unpack) : x = y := by
  have hpack : ∀ z : Float32, Float32.ofModel (.pack z.toModel.unpack) = z := ofBits_toBits
  rw [← hpack x, ← hpack y, h]

/-- Numbers compare equal only if they are the same or both zero. -/
theorem eq_or_zeros_of_compare {a b : UnpackedFloat} (h : a.compare b = some .eq) :
    a = b ∨ ∃ s t, a = .zero s ∧ b = .zero t := by
  cases a with
  | notANumber => cases h
  | infinity s =>
    cases b with
    | notANumber => cases h
    | infinity t => cases s <;> cases t <;> first | exact .inl rfl | cases h
    | zero t => cases s <;> cases h
    | finite t m e pos => cases s <;> cases h
  | zero s =>
    cases b with
    | notANumber => cases h
    | infinity t => cases t <;> cases h
    | zero t => exact .inr ⟨s, t, rfl, rfl⟩
    | finite t m e pos => cases t <;> cases h
  | finite s m e pos =>
    cases b with
    | notANumber => cases h
    | infinity t => cases s <;> cases t <;> cases h
    | zero t => cases s <;> cases h
    | finite t m' e' pos' =>
      -- Of two numbers with one sign exponent and significand have to agree.
      have hfields : ((compare e e').then (compare m m')) = .eq → e = e' ∧ m = m' := by
        intro heq
        obtain ⟨he, hm⟩ := Ordering.then_eq_eq.mp heq
        exact ⟨Std.LawfulEqOrd.eq_of_compare he, Std.LawfulEqOrd.eq_of_compare hm⟩
      cases s <;> cases t
      · have heq : ((compare e e').then (compare m m')).swap = .eq := Option.some.inj h
        obtain ⟨rfl, rfl⟩ := hfields (Ordering.swap_eq_eq.mp heq)
        exact .inl rfl
      · cases h
      · cases h
      · obtain ⟨rfl, rfl⟩ := hfields (Option.some.inj h)
        exact .inl rfl

/-- Floats that compare equal are the same or both zero. -/
theorem eq_or_zeros_of_beq {x y : Float32} (h : (x == y) = true) :
    x = y ∨ ∃ s t, x.toModel.unpack = .zero s ∧ y.toModel.unpack = .zero t := by
  have hcompare : x.toModel.unpack.compare y.toModel.unpack = some .eq := beq_iff_eq.mp h
  exact (eq_or_zeros_of_compare hcompare).imp_left eq_of_unpack_eq

/-- A number compares equal to itself. -/
theorem compare_eq_of_number {a : UnpackedFloat} (h : a ≠ .notANumber) : a.compare a = some .eq := by
  cases a with
  | notANumber => exact absurd rfl h
  | infinity s => cases s <;> rfl
  | zero s => rfl
  | finite s m e pos =>
    have hfields : (compare e e).then (compare m m) = .eq :=
      Ordering.then_eq_eq.mpr ⟨Std.ReflCmp.compare_self, Std.ReflCmp.compare_self⟩
    cases s
    · exact congrArg (some ·.swap) hfields
    · exact congrArg some hfields

/-- So does a float that is a number. -/
theorem beq_self {x : Float32} (h : x.isNaN = false) : (x == x) = true := by
  change x.toModel.unpack.isNaN = false at h
  have hnumber : x.toModel.unpack ≠ .notANumber := by
    intro hnan
    rw [hnan] at h
    cases h
  change (x.toModel.unpack.compare x.toModel.unpack == some .eq) = true
  rw [compare_eq_of_number hnumber]
  rfl

/-- The word of a magnitude. -/
def magnitudeWord (x : Float32) : Word := (x.toBits &&& 0x7fffffff).toBitVec

theorem toNat_magnitudeWord (x : Float32) :
    (magnitudeWord x).toNat = x.toBits.toNat % 2 ^ 31 := by
  change (x.toBits &&& 0x7fffffff).toNat = _
  rw [UInt32.toNat_and]
  exact Nat.and_two_pow_sub_one_eq_mod x.toBits.toNat 31

/-- A float is its magnitude up to sign. -/
theorem unpack_magnitudeWord (x : Float32) :
    x.toModel.unpack = UnpackedFloat.unpack Format.binary32 (magnitudeWord x) ∨
      x.toModel.unpack = (UnpackedFloat.unpack Format.binary32 (magnitudeWord x)).neg := by
  have hword := toNat_magnitudeWord x
  have hlt : x.toBits.toNat < 2 ^ 32 := x.toBits.toNat_lt
  have hbits : x.toBits.toBitVec.toNat = x.toBits.toNat := rfl
  by_cases hsign : x.toBits.toNat < 2 ^ 31
  · left
    have hsame : magnitudeWord x = x.toBits.toBitVec := by
      apply BitVec.eq_of_toNat_eq
      rw [hword, hbits]
      omega
    rw [hsame]
    rfl
  · right
    exact unpack_eq_neg (b := x.toBits.toBitVec) (by omega) (by omega)

/-- Zeros have magnitude zero. -/
theorem magnitudeWord_of_zero {x : Float32} {s : UnpackedFloat.Sign}
    (h : x.toModel.unpack = .zero s) : magnitudeWord x = 0 := by
  have hfields : @unpackExponent Format.binary32 x.toBits.toBitVec = 0#8 ∧
      @unpackMantissa Format.binary32 x.toBits.toBitVec = 0#23 := by
    change UnpackedFloat.unpack Format.binary32 x.toBits.toBitVec = .zero s at h
    rw [UnpackedFloat.unpack] at h
    split at h
    next => split at h <;> cases h
    next =>
      split at h
      next hexponent =>
        split at h
        next hmantissa => exact ⟨hexponent, hmantissa⟩
        next => cases h
      next => cases h
  have hexponent := toNat_unpackExponent x.toBits.toBitVec
  have hmantissa := toNat_unpackMantissa x.toBits.toBitVec
  rw [hfields.1] at hexponent
  rw [hfields.2] at hmantissa
  apply BitVec.eq_of_toNat_eq
  have hbits : x.toBits.toBitVec.toNat = x.toBits.toNat := rfl
  rw [toNat_magnitudeWord]
  change 0 = _ at hexponent hmantissa
  change _ = 0
  omega

/-- Floats that compare equal have one magnitude. -/
theorem abs_eq_of_beq {x y : Float32} (h : (x == y) = true) : abs x = abs y := by
  rcases eq_or_zeros_of_beq h with rfl | ⟨s, t, hx, hy⟩
  · rfl
  · have hwords : magnitudeWord x = magnitudeWord y :=
      (magnitudeWord_of_zero hx).trans (magnitudeWord_of_zero hy).symm
    exact congrArg (fun word => Float32.ofBits ⟨word⟩) hwords

/-- Floats that compare equal are infinite together. -/
theorem isInf_eq_of_beq {x y : Float32} (h : (x == y) = true) : x.isInf = y.isInf := by
  rcases eq_or_zeros_of_beq h with rfl | ⟨s, t, hx, hy⟩
  · rfl
  · change x.toModel.unpack.isInf = y.toModel.unpack.isInf
    rw [hx, hy]
    rfl

/-- Floats that compare equal are both numbers. -/
theorem isNaN_eq_of_beq {x y : Float32} (h : (x == y) = true) : x.isNaN = y.isNaN := by
  rcases eq_or_zeros_of_beq h with rfl | ⟨s, t, hx, hy⟩
  · rfl
  · change x.toModel.unpack.isNaN = y.toModel.unpack.isNaN
    rw [hx, hy]
    rfl

/-- What compares equal is a number. -/
theorem unpack_ne_of_beq {x y : Float32} (h : (x == y) = true) :
    x.toModel.unpack ≠ .notANumber := by
  intro hnan
  have hcompare : x.toModel.unpack.compare y.toModel.unpack = some .eq := beq_iff_eq.mp h
  rw [hnan] at hcompare
  cases hcompare

/-- A side of a triangle counts by its magnitude. -/
theorem hypot_congr_left {x x' : Float32} (h : (x == x') = true) (y : Float32) :
    hypot x y = hypot x' y := by
  simp only [hypot, isInf_eq_of_beq h, isNaN_eq_of_beq h, abs_eq_of_beq h]

/-- So does the other side. -/
theorem hypot_congr_right (x : Float32) {y y' : Float32} (h : (y == y') = true) :
    hypot x y = hypot x y' := by
  simp only [hypot, isInf_eq_of_beq h, isNaN_eq_of_beq h, abs_eq_of_beq h]

/-- The magnitude of a number compares equal to itself. -/
theorem abs_beq_self {x : Float32} (h : x.toModel.unpack ≠ .notANumber) :
    (abs x == abs x) = true := by
  have hnumber : UnpackedFloat.unpack Format.binary32 (magnitudeWord x) ≠ .notANumber := by
    intro hnan
    rcases unpack_magnitudeWord x with hx | hx <;> rw [hnan] at hx <;> exact h hx
  have hvalid : Format.binary32.Valid (magnitudeWord x) := by
    refine ⟨fun hexponent hmantissa => absurd ?_ hnumber⟩
    rw [UnpackedFloat.unpack]
    simp only [hexponent, if_true, if_neg hmantissa]
  have hunpack : (abs x).toModel.unpack =
      UnpackedFloat.unpack Format.binary32 (magnitudeWord x) := by
    change UnpackedFloat.unpack Format.binary32 (UnpackedFloat.pack Format.binary32 _) = _
    exact congrArg _ (pack_unpack hvalid)
  change ((abs x).toModel.unpack.compare (abs x).toModel.unpack == some .eq) = true
  rw [hunpack, compare_eq_of_number hnumber]
  rfl

end FieldGraph.Single
