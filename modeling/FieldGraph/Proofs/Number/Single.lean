import FieldGraph.Number.Single
import FieldGraph.Proofs.Number.Shortest
import Mathlib

/-!
# Single precision words

A float is stored as a word of sign, exponent and fraction. Taking a stored word apart and putting
it together again gives the word, and changing the sign of a float changes one bit. Hence a
decimal in the rounding interval of the magnitude of a finite float denotes that magnitude, and
its negative is the float itself if the sign is set.
-/

namespace FieldGraph.Single

open Float.Model
open UnpackedFloat (Sign packComponents unpackSign unpackExponent unpackMantissa)

/-! ## Fields -/

/-- A stored word. -/
abbrev Word := BitVec Format.binary32.numBits

theorem toNat_unpackMantissa (b : Word) : (unpackMantissa b).toNat = b.toNat % 2 ^ 23 := by
  simp [unpackMantissa, BitVec.extractLsb_toNat]

theorem toNat_unpackExponent (b : Word) :
    (unpackExponent b).toNat = b.toNat / 2 ^ 23 % 2 ^ 8 := by
  simp [unpackExponent, BitVec.extractLsb_toNat, Nat.shiftRight_eq_div_pow]

theorem toNat_unpackSign (b : Word) : (unpackSign b).toNat = b.toNat / 2 ^ 31 % 2 := by
  simp [unpackSign, BitVec.extractLsb_toNat, Nat.shiftRight_eq_div_pow]

theorem toNat_packComponents (s : Sign) (e : BitVec 8) (m : BitVec 23) :
    (packComponents Format.binary32 s e m).toNat =
      (s.toBitVec.toNat * 2 ^ 8 + e.toNat) * 2 ^ 23 + m.toNat := by
  change ((s.toBitVec ++ e) ++ m).toNat = _
  rw [BitVec.toNat_append, BitVec.toNat_append, ← Nat.shiftLeft_add_eq_or_of_lt m.isLt,
    ← Nat.shiftLeft_add_eq_or_of_lt e.isLt, Nat.shiftLeft_eq, Nat.shiftLeft_eq]

/-- A sign bit is the bit of its sign. -/
theorem toBitVec_ofBitVec : ∀ c : BitVec 1, (Sign.ofBitVec c).toBitVec = c := by decide

/-- A word is made of its fields. -/
theorem fields_eq (b : Word) :
    packComponents Format.binary32 (Sign.ofBitVec (unpackSign b)) (unpackExponent b)
      (unpackMantissa b) = b := by
  apply BitVec.eq_of_toNat_eq
  have hlt : b.toNat < 2 ^ 32 := b.isLt
  rw [toNat_packComponents, toBitVec_ofBitVec, toNat_unpackSign, toNat_unpackExponent,
    toNat_unpackMantissa]
  omega

/-! ## Packing -/

/-- A fraction at the least exponent is stored as it is. -/
theorem pack_subnormal (s : Sign) (m : BitVec 23) (hm : 0 < m.toNat) :
    UnpackedFloat.pack Format.binary32 (.finite s m.toNat (-149) hm) =
      packComponents Format.binary32 s 0#8 m := by
  have hlog : m.toNat.log2 < 23 := (Nat.log2_lt hm.ne').2 m.isLt
  have hbits : ¬ m.toNat.log2 + 1 = Format.binary32.mantissaBits := by
    change ¬ m.toNat.log2 + 1 = 24
    omega
  rw [UnpackedFloat.pack]
  simp only [if_neg hbits]
  rw [if_neg (by decide), BitVec.ofNat_toNat, BitVec.setWidth_eq]

/-- A full significand is stored without its leading bit. -/
theorem pack_normal (s : Sign) (e : BitVec 8) (m : BitVec 23) (he : e ≠ -1#8)
    (hm : 0 < (1#1 ++ m).toNat) :
    UnpackedFloat.pack Format.binary32 (.finite s (1#1 ++ m).toNat (e.toNat - 150) hm) =
      packComponents Format.binary32 s e m := by
  have hsum : (1#1 ++ m).toNat = 2 ^ 23 + m.toNat := by
    rw [BitVec.toNat_append, ← Nat.shiftLeft_add_eq_or_of_lt m.isLt, Nat.shiftLeft_eq]
    rfl
  have hm' := m.isLt
  have hlog : (1#1 ++ m).toNat.log2 = 23 := by
    rw [hsum, Nat.log2_eq_iff (by omega)]
    omega
  have hbiased : ((e.toNat : Int) - 150 + 127 + 23).toNat = e.toNat := by omega
  have hlt : e.toNat < 255 := by
    have hne : e.toNat ≠ 255 := fun h => he (BitVec.eq_of_toNat_eq h)
    have := e.isLt
    omega
  change (if 2 ^ 8 ≤ ((e.toNat : Int) - 150 + 127 + 23).toNat + 1 then _
    else if (1#1 ++ m).toNat.log2 + 1 = 24 then packComponents Format.binary32 s
      (BitVec.ofNat 8 ((e.toNat : Int) - 150 + 127 + 23).toNat) (BitVec.ofNat 23 (1#1 ++ m).toNat)
    else _) = _
  rw [hbiased, if_neg (by omega), hlog, if_pos rfl, BitVec.ofNat_toNat, BitVec.setWidth_eq, hsum]
  congr 1
  apply BitVec.eq_of_toNat_eq
  rw [BitVec.toNat_ofNat]
  omega

/-- Taking a valid word apart and packing it gives the word. -/
theorem pack_unpack {b : Word} (hb : Format.binary32.Valid b) :
    UnpackedFloat.pack Format.binary32 (UnpackedFloat.unpack Format.binary32 b) = b := by
  have hfields := fields_eq b
  rw [UnpackedFloat.unpack]
  split
  next he =>
    split
    next hm =>
      rw [he, hm] at hfields
      exact hfields
    next hm => exact (hb.eq_packedNaN he hm).symm
  next he =>
    split
    next hzero =>
      split
      next hm =>
        rw [hzero, hm] at hfields
        exact hfields
      next hm =>
        simp only [hzero] at hfields ⊢
        exact (pack_subnormal ..).trans hfields
    next hzero => exact (pack_normal _ _ _ he _).trans hfields

/-- The float of the word of a float is the float. -/
theorem ofBits_toBits (x : Float32) : Float32.ofBits x.toBits = x := by
  obtain ⟨word, hvalid⟩ := x
  have hpack : UnpackedFloat.pack Format.binary32 (UnpackedFloat.unpack Format.binary32
    word.toBitVec) = word.toBitVec := pack_unpack hvalid
  simp only [Float32.ofBits, Float32.toBits, Float32.Model.ofBits, Float32.Model.pack, hpack]

/-! ## Signs -/

/-- Setting the sign bit of a word negates it. -/
theorem unpack_eq_neg {a b : Word} (ha : a.toNat < 2 ^ 31) (hb : b.toNat = a.toNat + 2 ^ 31) :
    UnpackedFloat.unpack Format.binary32 b = (UnpackedFloat.unpack Format.binary32 a).neg := by
  have hm : unpackMantissa b = unpackMantissa a := by
    apply BitVec.eq_of_toNat_eq
    rw [toNat_unpackMantissa, toNat_unpackMantissa, hb]
    omega
  have he : unpackExponent b = unpackExponent a := by
    apply BitVec.eq_of_toNat_eq
    rw [toNat_unpackExponent, toNat_unpackExponent, hb]
    omega
  have hpos : unpackSign a = 0#1 := by
    apply BitVec.eq_of_toNat_eq
    rw [toNat_unpackSign]
    change _ = 0
    omega
  have hneg : unpackSign b = 1#1 := by
    apply BitVec.eq_of_toNat_eq
    rw [toNat_unpackSign, hb]
    change _ = 1
    omega
  rw [UnpackedFloat.unpack, UnpackedFloat.unpack]
  simp only [hm, he, hpos, hneg]
  split
  · split <;> rfl
  · split
    · split <;> rfl
    · rfl

/-- A word whose exponent is not the last one is valid. -/
theorem valid_of_exponent {b : Word} (h : b.toNat / 2 ^ 23 % 2 ^ 8 ≠ 255) :
    Format.binary32.Valid b := by
  refine ⟨fun he => absurd ?_ h⟩
  rw [← toNat_unpackExponent, he]
  rfl

/-- A finite float whose sign bit is set is the negative of the float without it. -/
theorem neg_ofBits {x : Float32} (hsign : 2 ^ 31 ≤ x.toBits.toNat)
    (hexponent : x.toBits.toNat / 2 ^ 23 % 2 ^ 8 ≠ 255) :
    -Float32.ofBits (UInt32.ofNat (x.toBits.toNat % 2 ^ 31)) = x := by
  have hlt : x.toBits.toNat < 2 ^ 32 := x.toBits.toNat_lt
  have hword : (UInt32.ofNat (x.toBits.toNat % 2 ^ 31)).toBitVec.toNat =
      x.toBits.toNat % 2 ^ 31 := by
    change (x.toBits.toNat % 2 ^ 31) % 2 ^ 32 = _
    omega
  have hneg := unpack_eq_neg (a := (UInt32.ofNat (x.toBits.toNat % 2 ^ 31)).toBitVec)
    (b := x.toBits.toBitVec) (by rw [hword]; omega)
    (by rw [hword]; change x.toBits.toNat = _; omega)
  have hpack := pack_unpack (b := (UInt32.ofNat (x.toBits.toNat % 2 ^ 31)).toBitVec)
    (valid_of_exponent (by rw [hword]; omega))
  have hunpack : (Float32.ofBits (UInt32.ofNat (x.toBits.toNat % 2 ^ 31))).toModel.unpack =
      UnpackedFloat.unpack Format.binary32
        (UInt32.ofNat (x.toBits.toNat % 2 ^ 31)).toBitVec := by
    change UnpackedFloat.unpack Format.binary32 (UnpackedFloat.pack Format.binary32 _) = _
    rw [hpack]
  change Float32.ofModel (.pack (Float32.toModel _).unpack.neg) = x
  rw [hunpack, ← hneg]
  exact ofBits_toBits x

/-! ## Decimals -/

/-- What the word of a finite float says about the value. -/
theorem decode_finite {w : Nat} (hw : w < 2 ^ 32) {negative : Bool} {m : Nat} {e : Int}
    (h : Binary.Format.single.decode w = .finite negative m e) :
    w / 2 ^ 23 % 2 ^ 8 ≠ 255 ∧ negative = decide (2 ^ 31 ≤ w) ∧
      Binary.Format.single.encode (.finite false m e) = w % 2 ^ 31 ∧
      (m = 0 ∧ w % 2 ^ 31 = 0 ∨ Binary.Format.single.Canonical m e) := by
  have hhidden : Binary.Format.single.hidden = 2 ^ 23 := rfl
  have hpow : Nat.pow 2 Binary.Format.single.exponentBits = 2 ^ 8 := rfl
  have hmin : Binary.Format.single.minExponent = -149 := rfl
  have hmax : Binary.Format.single.maxExponent = 104 := rfl
  simp only [Binary.Format.decode, hhidden, hpow, hmin] at h
  simp only [Binary.Format.encode, hhidden, hmin, Bool.false_eq_true, if_false, zero_add]
  split at h
  next => split at h <;> cases h
  next hinfinite =>
    have hexponent : w / 2 ^ 23 % 2 ^ 8 ≠ 255 := hinfinite
    refine ⟨hexponent, ?_⟩
    split at h
    next hzero =>
      obtain ⟨rfl, rfl, rfl⟩ := h
      refine ⟨?_, ?_, ?_⟩
      · rw [beq_eq_decide, decide_eq_decide]
        omega
      · rw [if_pos (Nat.mod_lt w (by decide))]
        omega
      · by_cases hm : w % 2 ^ 23 = 0
        · exact .inl ⟨hm, by omega⟩
        · exact .inr ⟨by omega, by omega, by omega, by omega, .inr hmin.symm⟩
    next hnormal =>
      obtain ⟨rfl, rfl, rfl⟩ := h
      refine ⟨?_, ?_, .inr ⟨by omega, by omega, by omega, by omega, .inl (by omega)⟩⟩
      · rw [beq_eq_decide, decide_eq_decide]
        omega
      · rw [if_neg (by omega)]
        omega

/-- The float nearest to the decimal `digits / 10 ^ places`, a half going to the even
significand. -/
def ofDecimal (digits places : Nat) : Float32 :=
  Float32.ofBits (UInt32.ofNat
    (Binary.Format.single.encode (Binary.Format.single.round false digits (10 ^ places))))

/-- The decimal that is written for the magnitude of a finite float. -/
def written (significand : Nat) (exponent : Int) : ℚ :=
  if significand = 0 then 0 else (Decimal.shortest .single significand exponent).value

/-- A decimal equal to the one written for the magnitude of a float denotes the float up to its
sign. -/
theorem ofDecimal_eq {x : Float32} {negative : Bool} {m : Nat} {e : Int}
    (h : Binary.ofSingle x = .finite negative m e) {digits places : Nat}
    (hdecimal : (digits / 10 ^ places : ℚ) = written m e) :
    (if negative then -ofDecimal digits places else ofDecimal digits places) = x := by
  have hlt : x.toBits.toNat < 2 ^ 32 := x.toBits.toNat_lt
  obtain ⟨hexponent, hsign, hencode, hcases⟩ := decode_finite hlt h
  have hround : Binary.Format.single.encode
      (Binary.Format.single.round false digits (10 ^ places)) = x.toBits.toNat % 2 ^ 31 := by
    rcases hcases with ⟨rfl, hzero⟩ | hc
    · obtain rfl : digits = 0 := by simpa [written] using hdecimal
      rw [hzero]
      rfl
    · have hcontains := Decimal.contains_shortest hc
      rw [written, if_neg hc.pos.ne'] at hdecimal
      rw [← hdecimal] at hcontains
      have hpos : 0 < digits := by
        by_contra hzero
        rw [Nat.eq_zero_of_not_pos hzero, Nat.cast_zero, zero_div] at hcontains
        exact hcontains.ne_zero hc.pos rfl
      rw [← hencode, Binary.Format.round_eq hc false hpos (by positivity)
        (by push_cast; exact hcontains)]
  rw [ofDecimal, hround, hsign]
  by_cases hbit : 2 ^ 31 ≤ x.toBits.toNat
  · rw [if_pos (decide_eq_true hbit)]
    exact neg_ofBits hbit hexponent
  · rw [if_neg (by simpa using hbit), Nat.mod_eq_of_lt (not_le.1 hbit), UInt32.ofNat_toNat]
    exact ofBits_toBits x

/-! ## Finite floats -/

/-- A finite float has a finite value. -/
theorem ofSingle_of_isFinite {x : Float32} (h : x.isFinite = true) :
    ∃ negative m e, Binary.ofSingle x = .finite negative m e := by
  have hexponent : x.toBits.toNat / 2 ^ 23 % 2 ^ 8 ≠ 255 := by
    intro hlast
    have hones : @unpackExponent Format.binary32 x.toBits.toBitVec = -1#8 :=
      BitVec.eq_of_toNat_eq ((toNat_unpackExponent _).trans hlast)
    have hunpack : x.toModel.unpack.isFinite = true := h
    rw [Float32.Model.unpack, UnpackedFloat.unpack] at hunpack
    have hones' : @unpackExponent Format.binary32 x.toModel.toBits.toBitVec = -1#8 := hones
    simp only [hones', if_true] at hunpack
    split at hunpack <;> cases hunpack
  unfold Binary.ofSingle Binary.Format.decode
  dsimp only
  split
  next hlast => exact absurd hlast hexponent
  next =>
    split
    · exact ⟨_, _, _, rfl⟩
    · exact ⟨_, _, _, rfl⟩

/-- What lies between finite floats is finite. -/
theorem isFinite_of_between {a x b : Float32} (hax : a ≤ x) (hxb : x ≤ b)
    (ha : a.isFinite = true) (hb : b.isFinite = true) : x.isFinite = true := by
  have hlow : (a.toModel.unpack.compare x.toModel.unpack).any (·.isLE) = true :=
    of_decide_eq_true hax
  have hhigh : (x.toModel.unpack.compare b.toModel.unpack).any (·.isLE) = true :=
    of_decide_eq_true hxb
  have ha' : a.toModel.unpack.isFinite = true := ha
  have hb' : b.toModel.unpack.isFinite = true := hb
  change x.toModel.unpack.isFinite = true
  cases hx : x.toModel.unpack with
  | zero | finite => rfl
  | notANumber =>
    rw [hx] at hhigh
    cases hhigh
  | infinity s =>
    rw [hx] at hlow hhigh
    cases s with
    | positive =>
      cases hbu : b.toModel.unpack with
      | zero | finite =>
        rw [hbu] at hhigh
        cases hhigh
      | infinity | notANumber =>
        rw [hbu] at hb'
        cases hb'
    | negative =>
      cases hau : a.toModel.unpack with
      | zero | finite s =>
        rw [hau] at hlow
        cases hlow
      | infinity | notANumber =>
        rw [hau] at ha'
        cases ha'

end FieldGraph.Single
