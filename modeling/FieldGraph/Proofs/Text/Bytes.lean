import FieldGraph.Shader.Name
import Mathlib

/-!
# Texts as bytes

The bytes of a text are those of its characters one after the other. They keep the order of texts:
of two different characters the smaller has the smaller byte where their codes first differ, also
if the codes are of different lengths. Sorting texts is therefore the same as sorting their bytes.
-/

namespace FieldGraph.Shader

/-! ## Characters in a row -/

/-- Reading bytes from a position on adds what is left to what was read. -/
theorem toList_loop (b : ByteArray) (i : Nat) (read : List UInt8) :
    ByteArray.toList.loop b i read = read.reverse ++ b.data.toList.drop i := by
  fun_induction ByteArray.toList.loop b i read with
  | case1 i read hi ih =>
    have hnext : b.data.toList.drop i = b.get! i :: b.data.toList.drop (i + 1) := by
      rw [List.drop_eq_getElem_cons (by simpa using hi)]
      simp [ByteArray.get!, hi]
    rw [ih, hnext, List.reverse_cons, List.append_assoc, List.singleton_append]
  | case2 i read hi =>
    have hend : b.data.toList.drop i = [] := List.drop_eq_nil_iff.mpr (by simpa using hi)
    rw [hend, List.append_nil]

/-- The bytes of a text are those of its characters. -/
theorem utf8_eq (s : String) : utf8 s = s.toList.flatMap String.utf8EncodeChar := by
  rw [utf8, ByteArray.toList, toList_loop, String.toUTF8_eq_toByteArray, ← String.utf8Encode_toList,
    List.utf8Encode.eq_1, List.toList_data_toByteArray]
  rfl

@[simp] theorem utf8_append (s t : String) : utf8 (s ++ t) = utf8 s ++ utf8 t := by
  simp only [utf8_eq, String.toList_append, List.flatMap_append]

/-! ## Order -/

/-- A smaller number is smaller in one of its digits of base 64 and the same in those before. -/
theorem digits_lt {v w : Nat} (h : v < w) :
    v / 262144 < w / 262144 ∨ v / 262144 = w / 262144 ∧
      (v / 4096 % 64 < w / 4096 % 64 ∨ v / 4096 % 64 = w / 4096 % 64 ∧
        (v / 64 % 64 < w / 64 % 64 ∨ v / 64 % 64 = w / 64 % 64 ∧ v % 64 < w % 64)) := by
  have hlast : ∀ {v w : Nat}, v < w → v / 64 < w / 64 ∨ v / 64 = w / 64 ∧ v % 64 < w % 64 := by
    omega
  have hpower : ∀ n : Nat, n / 4096 = n / 64 / 64 ∧ n / 262144 = n / 64 / 64 / 64 := by
    intro n
    simp only [Nat.div_div_eq_div_mul]
    decide
  simp only [hpower]
  rcases hlast h with h | ⟨hsame, h⟩
  · rcases hlast h with h | ⟨hsame, h⟩
    · rcases hlast h with h | ⟨hsame, h⟩
      · exact .inl h
      · exact .inr ⟨hsame, .inl h⟩
    · simp [hsame, h]
  · simp [hsame, h]

/-- The code of a smaller character comes first, whatever follows. -/
theorem encode_append_lt {c d : Char} (h : c < d) (later later' : List UInt8) :
    String.utf8EncodeChar c ++ later < String.utf8EncodeChar d ++ later' := by
  have hlt : c.val.toNat < d.val.toNat := h
  have hvalid : d.val.toNat < 1114112 := by
    have hscalar := d.valid
    simp only [UInt32.isValidChar, Nat.isValidChar] at hscalar
    omega
  have hbyte : ∀ n : Nat, (UInt8.ofNat n).toNat = n % 256 := fun n => by simp
  have hdigits := digits_lt hlt
  simp only [String.utf8EncodeChar]
  generalize c.val.toNat = v at *
  generalize d.val.toNat = w at *
  -- Codes of different lengths differ in the first byte already, whose upper bits tell the length.
  split_ifs <;>
    simp (disch := omega) only [List.cons_append, List.nil_append, List.cons_lt_cons_iff,
      UInt8.lt_iff_toNat_lt, ← UInt8.toNat_inj, hbyte, Nat.mod_eq_of_lt,
      Nat.add_lt_add_iff_right, Nat.add_right_cancel_iff] <;>
    omega

theorem flatMap_encode_lt {cs ds : List Char} (h : cs < ds) :
    cs.flatMap String.utf8EncodeChar < ds.flatMap String.utf8EncodeChar := by
  induction cs generalizing ds with
  | nil =>
    cases ds with
    | nil => exact absurd h (List.lt_irrefl [])
    | cons d ds =>
      obtain ⟨b, bs, hcode⟩ := List.exists_cons_of_ne_nil (String.utf8EncodeChar_ne_nil (c := d))
      simp [hcode]
  | cons c cs ih =>
    cases ds with
    | nil => exact absurd h (List.not_lt_nil _)
    | cons d ds =>
      rcases List.cons_lt_cons_iff.mp h with hlt | ⟨rfl, hlt⟩
      · exact encode_append_lt hlt _ _
      · exact List.append_left_lt (ih hlt)

/-- Texts are ordered as their bytes are. -/
theorem utf8_lt_iff {s t : String} : utf8 s < utf8 t ↔ s < t := by
  have hmono : ∀ {s t : String}, s < t → utf8 s < utf8 t := by
    intro s t h
    rw [utf8_eq, utf8_eq]
    exact flatMap_encode_lt (String.lt_iff_toList_lt.mp h)
  refine ⟨fun h => ?_, hmono⟩
  rcases lt_trichotomy s t with hlt | rfl | hgt
  · exact hlt
  · exact absurd h (List.lt_irrefl _)
  · exact absurd h (List.lt_asymm (hmono hgt))

end FieldGraph.Shader
