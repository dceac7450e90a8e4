import FieldGraph.Proofs.Number.Nearest
import FieldGraph.Proofs.Number.Single
import FieldGraph.Proofs.Shader.Identifier

/-!
# Literals are exact

The literal of a finite float is a numeral: digits on both sides of a point, behind a sign if the
sign of the float is set. Neither the bytes it is appended to nor the bytes chosen for sign and
point make a difference to the digits. The number the numeral denotes lies in the rounding interval
of the float and so rounds to it. As long as sign and point are no digits the numeral can be told
from its bytes, hence no two finite floats have the same literal.
-/

namespace FieldGraph.Shader

/-! ## Digits -/

/-- A row of digits is one or more digits. -/
theorem isDigits_iff {cs : List Char} :
    isDigits cs = true ↔ cs ≠ [] ∧ ∀ c ∈ cs, c.isDigit = true := by
  simp [isDigits]

/-- Zeros are digits. -/
theorem isDigit_of_mem_zeros {n : Nat} {c : Char} (h : c ∈ Notation.zeros n) :
    c.isDigit = true := by
  rw [List.eq_of_mem_replicate h]
  rfl

/-- The byte of a digit is that of a digit and tells which. -/
theorem toUInt8_digit {c : Char} (h : c.isDigit = true) :
    isDigitByte c.toUInt8 = true ∧ Char.ofUInt8 c.toUInt8 = c := by
  have hall : ∀ n < 58, (Char.ofNat n).isDigit = true → isDigitByte (Char.ofNat n).toUInt8 = true ∧
      Char.ofUInt8 (Char.ofNat n).toUInt8 = Char.ofNat n := by decide
  have hlt : c.toNat < 58 := by
    simp only [Char.isDigit, Bool.and_eq_true, decide_eq_true_eq] at h
    exact Nat.lt_succ_of_le h.2
  have hc := hall c.toNat hlt
  rw [Char.ofNat_toNat] at hc
  exact hc h

/-- Digits can be read back from their bytes. -/
theorem map_ofUInt8_digits {cs : List Char} (h : isDigits cs = true) :
    (cs.map Char.toUInt8).map Char.ofUInt8 = cs := by
  rw [List.map_map]
  exact (List.map_congr_left fun c hc => (toUInt8_digit ((isDigits_iff.mp h).2 c hc)).2).trans
    (List.map_id cs)

/-- What is no digit is not among the bytes of digits. -/
theorem not_mem_bytes {cs : List Char} (h : isDigits cs = true) {b : UInt8}
    (hb : isDigitByte b = false) : b ∉ cs.map Char.toUInt8 := by
  intro hmem
  obtain ⟨c, hc, rfl⟩ := List.mem_map.mp hmem
  rw [(toUInt8_digit ((isDigits_iff.mp h).2 c hc)).1] at hb
  cases hb

/-! ## Numerals -/

/-- A number written with digits on both sides of a point. -/
structure Numeral where
  negative : Bool
  whole : List Char
  part : List Char
  isDigits_whole : isDigits whole = true
  isDigits_part : isDigits part = true

namespace Numeral

/-- The bytes of a numeral, with `minus` for the sign and `point` for the point. -/
def bytes (n : Numeral) (minus point : UInt8) : List UInt8 :=
  (if n.negative then [minus] else []) ++
    (n.whole.map Char.toUInt8 ++ point :: n.part.map Char.toUInt8)

/-- The number a numeral denotes. -/
def value (n : Numeral) : ℚ :=
  let magnitude : ℚ := Nat.ofDigitChars 10 (n.whole ++ n.part) 0 / 10 ^ n.part.length
  if n.negative then -magnitude else magnitude

/-- The bytes of a numeral tell the numeral, unless its sign or its point is a digit. -/
theorem bytes_injective {minus point : UInt8} (hminus : isDigitByte minus = false)
    (hpoint : isDigitByte point = false) {n k : Numeral}
    (h : n.bytes minus point = k.bytes minus point) : n = k := by
  obtain ⟨s, w, p, hw, hp⟩ := n
  obtain ⟨t, v, q, hv, hq⟩ := k
  have hdigits {ds ds' : List Char} (hds : isDigits ds = true) (hds' : isDigits ds' = true)
      (heq : ds.map Char.toUInt8 = ds'.map Char.toUInt8) : ds = ds' := by
    rw [← map_ofUInt8_digits hds, heq, map_ofUInt8_digits hds']
  have hparts : w.map Char.toUInt8 ++ point :: p.map Char.toUInt8 =
      v.map Char.toUInt8 ++ point :: q.map Char.toUInt8 → w = v ∧ p = q := by
    intro heq
    obtain ⟨hwhole, -, hpart⟩ := (List.append_cons_inj_of_notMem
      (not_mem_bytes hw hpoint) (not_mem_bytes hp hpoint)).mp heq
    exact ⟨hdigits hw hv hwhole, hdigits hp hq hpart⟩
  -- The byte of a digit comes first exactly if there is no sign.
  have hfirst {ds : List Char} {rest rest' : List UInt8} (hds : isDigits ds = true) :
      minus :: rest ≠ ds.map Char.toUInt8 ++ rest' := by
    obtain ⟨c, tail, rfl, hc⟩ := exists_cons_of_isDigits hds
    intro heq
    rw [(List.cons.inj heq).1, (toUInt8_digit hc).1] at hminus
    cases hminus
  cases s <;> cases t <;> simp only [bytes, Bool.false_eq_true, if_true, if_false, List.nil_append,
    List.singleton_append] at h
  · obtain ⟨rfl, rfl⟩ := hparts h
    rfl
  · exact absurd h.symm (hfirst hw)
  · exact absurd h (hfirst hv)
  · obtain ⟨rfl, rfl⟩ := hparts (List.cons.inj h).2
    rfl

end Numeral

/-! ## Replacing sign and point -/

/-- There is no point among digits. -/
theorem not_mem_of_isDigits {cs : List Char} (h : isDigits cs = true) : '.' ∉ cs := by
  intro hmem
  cases (isDigits_iff.mp h).2 '.' hmem

/-- Only the point is replaced. -/
theorem repointed_pointed (point : UInt8) {whole part : List Char} (hwhole : isDigits whole = true)
    (hpart : isDigits part = true) :
    Notation.repointed point (whole ++ '.' :: part) =
      whole.map Char.toUInt8 ++ point :: part.map Char.toUInt8 := by
  have hkeep {ds : List Char} (hds : isDigits ds = true) :
      ds.map (fun c => if c = '.' then point else c.toUInt8) = ds.map Char.toUInt8 := by
    refine List.map_congr_left fun c hc => if_neg ?_
    rintro rfl
    exact not_mem_of_isDigits hds hc
  rw [Notation.repointed, if_pos (by simp), List.map_append, List.map_cons, if_pos rfl,
    hkeep hwhole, hkeep hpart]

/-- Digits without a point get one, and a zero behind it. -/
theorem repointed_whole (point : UInt8) {whole : List Char} (hwhole : isDigits whole = true) :
    Notation.repointed point whole =
      whole.map Char.toUInt8 ++ point :: ['0'].map Char.toUInt8 := by
  rw [Notation.repointed, if_neg (not_mem_of_isDigits hwhole)]
  rfl

/-- A sign does not matter for the point. -/
theorem repointed_minus (point : UInt8) (cs : List Char) :
    Notation.repointed point ('-' :: cs) = '-'.toUInt8 :: Notation.repointed point cs := by
  unfold Notation.repointed
  by_cases h : '.' ∈ cs
  · rw [if_pos h, if_pos (List.mem_cons_of_mem _ h)]
    rfl
  · rw [if_neg h, if_neg (by simpa using h), List.map_cons, List.cons_append]

/-- Digits with a point somewhere are a whole part and a fractional part of the same number. -/
theorem exists_pointed {ds : List Char} (hds : isDigits ds = true) (place : Int) :
    ∃ whole part, isDigits whole = true ∧ isDigits part = true ∧
      (∀ point, Notation.repointed point (Notation.pointed ds place) =
        whole.map Char.toUInt8 ++ point :: part.map Char.toUInt8) ∧
      (Nat.ofDigitChars 10 (whole ++ part) 0 / 10 ^ part.length : ℚ) =
        Nat.ofDigitChars 10 ds 0 * 10 ^ (place - ds.length) := by
  obtain ⟨hne, hall⟩ := isDigits_iff.mp hds
  have hlength := List.length_pos_iff.mpr hne
  unfold Notation.pointed
  split_ifs with hsmall hlarge
  · -- The number is below one: zeros follow the point.
    have hpart : isDigits (Notation.zeros (-place).toNat ++ ds) = true := by
      refine isDigits_iff.mpr ⟨by simp [hne], fun c hc => ?_⟩
      rcases List.mem_append.mp hc with hc | hc
      · exact isDigit_of_mem_zeros hc
      · exact hall c hc
    have hzero : isDigits ['0'] = true := rfl
    refine ⟨['0'], _, hzero, hpart, fun point => repointed_pointed point hzero hpart, ?_⟩
    have hdigits : Nat.ofDigitChars 10 (['0'] ++ (Notation.zeros (-place).toNat ++ ds)) 0 =
        Nat.ofDigitChars 10 ds 0 := by
      simp [Nat.ofDigitChars_cons, Nat.ofDigitChars_append, Notation.zeros,
        Nat.ofDigitChars_replicate_zero]
    rw [hdigits, div_eq_mul_inv, ← zpow_natCast, ← zpow_neg]
    congr 2
    simp only [List.length_append, Notation.zeros, List.length_replicate]
    omega
  · -- The number is whole: zeros may precede the point.
    have hwhole : isDigits (ds ++ Notation.zeros (place.toNat - ds.length)) = true := by
      refine isDigits_iff.mpr ⟨by simp [hne], fun c hc => ?_⟩
      rcases List.mem_append.mp hc with hc | hc
      · exact hall c hc
      · exact isDigit_of_mem_zeros hc
    refine ⟨_, ['0'], hwhole, rfl, fun point => repointed_whole point hwhole, ?_⟩
    have hdigits : Nat.ofDigitChars 10
        (ds ++ Notation.zeros (place.toNat - ds.length) ++ ['0']) 0 =
          10 * (10 ^ (place.toNat - ds.length) * Nat.ofDigitChars 10 ds 0) := by
      simp [Nat.ofDigitChars_cons, Nat.ofDigitChars_append, Notation.zeros,
        Nat.ofDigitChars_replicate_zero]
    have hpow : place - ds.length = ((place.toNat - ds.length : Nat) : Int) := by omega
    rw [hdigits, hpow, zpow_natCast]
    push_cast
    rw [List.length_singleton]
    ring
  · -- The point stands between two digits.
    have hwhole : isDigits (ds.take place.toNat) = true :=
      isDigits_iff.mpr ⟨by simp [hne]; omega, fun c hc => hall c (List.mem_of_mem_take hc)⟩
    have hpart : isDigits (ds.drop place.toNat) = true :=
      isDigits_iff.mpr ⟨by simp; omega, fun c hc => hall c (List.mem_of_mem_drop hc)⟩
    refine ⟨_, _, hwhole, hpart, fun point => repointed_pointed point hwhole hpart, ?_⟩
    rw [List.take_append_drop, div_eq_mul_inv, ← zpow_natCast, ← zpow_neg, List.length_drop]
    congr 2
    omega

/-- The positional form of a decimal is a whole part and a fractional part of it. -/
theorem exists_decimal (d : Decimal) :
    ∃ whole part, isDigits whole = true ∧ isDigits part = true ∧
      (∀ point, Notation.repointed point (Notation.positional.decimal d) =
        whole.map Char.toUInt8 ++ point :: part.map Char.toUInt8) ∧
      (Nat.ofDigitChars 10 (whole ++ part) 0 / 10 ^ part.length : ℚ) = d.value := by
  have hdigits : isDigits (Decimal.digitChars d.digits) = true :=
    isDigits_iff.mpr ⟨Nat.toDigits_ne_nil,
      fun c hc => Nat.isDigit_of_mem_toDigits (by decide) (by decide) hc⟩
  obtain ⟨whole, part, hwhole, hpart, hbytes, hvalue⟩ := exists_pointed hdigits
    (d.exponent + (Decimal.digitChars d.digits).length - 1 + 1)
  refine ⟨whole, part, hwhole, hpart, hbytes, hvalue.trans ?_⟩
  rw [Decimal.digitChars, Nat.ofDigitChars_ten_toDigits, Decimal.value]
  congr 2
  ring

/-- The positional form of the magnitude of a finite float is a whole part and a fractional part of
the decimal that is written for it. -/
theorem exists_written (m : Nat) (e : Int) :
    ∃ whole part, isDigits whole = true ∧ isDigits part = true ∧
      (∀ point, Notation.repointed point (if m = 0 then ['0'] else
        Notation.positional.decimal (Decimal.shortest .single m e)) =
          whole.map Char.toUInt8 ++ point :: part.map Char.toUInt8) ∧
      (Nat.ofDigitChars 10 (whole ++ part) 0 / 10 ^ part.length : ℚ) = Single.written m e := by
  unfold Single.written
  split_ifs
  · exact ⟨['0'], ['0'], rfl, rfl, fun point => repointed_whole point rfl,
      by norm_num [Nat.ofDigitChars_cons]⟩
  · exact exists_decimal _

/-- The literal of a finite float is a numeral of the decimal that is written for it. -/
theorem exists_numeral {x : Float32} {negative : Bool} {m : Nat} {e : Int}
    (h : Binary.ofSingle x = .finite negative m e) :
    ∃ n : Numeral, n.negative = negative ∧
      (Nat.ofDigitChars 10 (n.whole ++ n.part) 0 / 10 ^ n.part.length : ℚ) = Single.written m e ∧
      ∀ minus point, literalBytes minus point x = n.bytes minus point := by
  obtain ⟨whole, part, hwhole, hpart, hbytes, hvalue⟩ := exists_written m e
  refine ⟨⟨negative, whole, part, hwhole, hpart⟩, rfl, hvalue, fun minus point => ?_⟩
  rw [literalBytes, h, Notation.chars, Numeral.bytes]
  cases negative with
  | true =>
    rw [if_pos rfl, repointed_minus, hbytes]
    rfl
  | false =>
    obtain ⟨c, rest, rfl, hc⟩ := exists_cons_of_isDigits hwhole
    have hsign : c.toUInt8 ≠ '-'.toUInt8 := by
      intro heq
      have hdigit := (toUInt8_digit hc).1
      rw [heq] at hdigit
      cases hdigit
    simp only [Bool.false_eq_true, if_false, hbytes, List.map_cons, List.cons_append,
      List.modifyHead_cons, if_neg hsign, List.nil_append]

/-- The characters of the literal whose bytes are those of a numeral. -/
theorem toList_literal {x : Float32} {n : Numeral}
    (h : ∀ minus point, literalBytes minus point x = n.bytes minus point) :
    (literal x).toList = (if n.negative then ['-'] else []) ++ (n.whole ++ '.' :: n.part) := by
  rw [literal, String.toList_ofList, appendLiteral, List.nil_append, h, Numeral.bytes,
    List.map_append, List.map_append, List.map_cons, map_ofUInt8_digits n.isDigits_whole,
    map_ofUInt8_digits n.isDigits_part]
  cases n.negative <;> rfl

/-! ## Exactness -/

/-- The decimal that is written for the magnitude of a finite float rounds to it. -/
theorem roundsTo_written {x : Float32} {negative : Bool} {m : Nat} {e : Int}
    (h : Binary.ofSingle x = .finite negative m e) :
    Binary.Format.single.RoundsTo (Single.written m e) false m e := by
  obtain ⟨-, -, -, ⟨rfl, -⟩ | hc⟩ := Single.decode_finite x.toBits.toNat_lt h
  · exact Binary.Format.roundsTo_zero _ e
  · rw [Single.written, if_neg hc.pos.ne']
    exact hc.roundsTo (Decimal.contains_shortest hc)

/-- Bytes to which the literal of a finite float is appended are followed by a numeral that rounds
to the float and has its sign, whatever the bytes for sign and point are. As long as these are no
digits, no other finite float has the same literal. -/
theorem literals_are_exact (x : Float32) (hx : x.isFinite = true) :
    (∃ n : Numeral,
      (∀ (bytes : List UInt8) (minus point : UInt8),
        appendLiteral bytes minus point x = bytes ++ n.bytes minus point) ∧
      ∃ m e, Binary.ofSingle x = .finite n.negative m e ∧
        Binary.Format.single.RoundsTo n.value n.negative m e) ∧
    ∀ (bytes : List UInt8) (minus point : UInt8),
      isDigitByte minus = false → isDigitByte point = false →
      ∀ y : Float32, y.isFinite = true →
        appendLiteral bytes minus point y = appendLiteral bytes minus point x → y = x := by
  obtain ⟨negative, m, e, h⟩ := Single.ofSingle_of_isFinite hx
  obtain ⟨n, rfl, hvalue, hbytes⟩ := exists_numeral h
  refine ⟨⟨n, fun bytes minus point => ?_, m, e, h, ?_⟩,
    fun bytes minus point hminus hpoint y hy heq => ?_⟩
  · rw [appendLiteral, hbytes]
  · have hrounds := roundsTo_written h
    rw [← hvalue] at hrounds
    rw [Numeral.value]
    cases n.negative with
    | false => exact hrounds
    | true => exact hrounds.neg
  · -- Equal literals have one numeral, which is read as one float.
    obtain ⟨negative', m', e', h'⟩ := Single.ofSingle_of_isFinite hy
    obtain ⟨k, rfl, hvalue', hbytes'⟩ := exists_numeral h'
    rw [appendLiteral, appendLiteral, hbytes, hbytes', List.append_cancel_left_eq] at heq
    obtain rfl := Numeral.bytes_injective hminus hpoint heq
    exact (Single.ofDecimal_eq h' hvalue').symm.trans (Single.ofDecimal_eq h hvalue)

/-- The negative float nearest to zero, written with a letter for the sign and a byte beyond ASCII
for the point, behind bytes that hold a sign and a point and end inside a character. -/
theorem literals_are_exact_least :
    (Float32.ofBits 0x80000001).isFinite = true ∧
    (∃ n : Numeral, n.negative = true ∧
      appendLiteral [97, 45, 46, 195] 110 255 (.ofBits 0x80000001) =
        [97, 45, 46, 195] ++ n.bytes 110 255 ∧
      Binary.Format.single.RoundsTo n.value true 1 (-149)) ∧
    ∀ y : Float32, y.isFinite = true →
      appendLiteral [97, 45, 46, 195] 110 255 y =
        appendLiteral [97, 45, 46, 195] 110 255 (.ofBits 0x80000001) →
        y = .ofBits 0x80000001 := by
  have hfinite : (Float32.ofBits 0x80000001).isFinite = true := by decide +kernel
  have hbits : Binary.ofSingle (.ofBits 0x80000001) = .finite true 1 (-149) := by decide +kernel
  obtain ⟨⟨n, hbytes, m, e, hsingle, hrounds⟩, hunique⟩ := literals_are_exact _ hfinite
  rw [hbits] at hsingle
  injection hsingle with hsign hm he
  rw [← hsign, ← hm, ← he] at hrounds
  exact ⟨hfinite, ⟨n, hsign.symm, hbytes [97, 45, 46, 195] 110 255, hrounds⟩,
    hunique [97, 45, 46, 195] 110 255 rfl rfl⟩

end FieldGraph.Shader
