import FieldGraph.Proofs.Shader.Identifier
import FieldGraph.Proofs.Shader.Reorder

/-!
# Hashes that lose nothing

A hash takes eight bytes at a time: their word is mixed into what was hashed so far, and the
result is scrambled. Every step of scrambling can be undone, so hashing any bytes is a bijection of
the seed, and a difference inside of one block is still there after all later blocks. Names that
end in such hashes in full are told apart by them.
-/

namespace FieldGraph

namespace Shader

/-! ## Mixing a word -/

/-- Folding a word onto its lower bits can be undone. -/
theorem xor_shiftRight_injective {k : UInt64} (hpos : 0 < k.toNat) (hk : k.toNat < 64) :
    Function.Injective fun x : UInt64 => x ^^^ (x >>> k) := by
  intro x y h
  have hdiff : x ^^^ y = (x ^^^ y) >>> k := by
    rw [UInt64.shiftRight_xor, ← UInt64.xor_eq_zero_iff]
    have hxy : x ^^^ (x >>> k) = y ^^^ (y >>> k) := h
    calc x ^^^ y ^^^ (x >>> k ^^^ y >>> k)
        = (x ^^^ (x >>> k)) ^^^ (y ^^^ (y >>> k)) := by ac_rfl
      _ = 0 := by rw [hxy, UInt64.xor_self]
  have hhalf : (x ^^^ y).toNat = (x ^^^ y).toNat / 2 ^ k.toNat := by
    have hnat := congrArg UInt64.toNat hdiff
    rwa [UInt64.toNat_shiftRight, Nat.mod_eq_of_lt hk, Nat.shiftRight_eq_div_pow] at hnat
  have hzero : (x ^^^ y).toNat = 0 := by
    by_contra hne
    have hsmaller := Nat.div_lt_self (Nat.pos_of_ne_zero hne) (Nat.one_lt_two_pow hpos.ne')
    omega
  exact UInt64.xor_eq_zero_iff.mp (UInt64.toNat_inj.mp hzero)

/-- A factor with an inverse can be undone. -/
theorem mul_injective_of_inverse {c inverse : UInt64} (h : c * inverse = 1) :
    Function.Injective fun x : UInt64 => x * c := by
  intro x y hxy
  have hxy : x * c = y * c := hxy
  calc x = x * c * inverse := by rw [UInt64.mul_assoc, h, UInt64.mul_one]
    _ = y := by rw [hxy, UInt64.mul_assoc, h, UInt64.mul_one]

/-- Scrambling loses nothing. -/
theorem scramble_injective : Function.Injective scramble := by
  have hfirst := mul_injective_of_inverse
    (show (0xbf58476d1ce4e5b9 : UInt64) * 0x96de1b173f119089 = 1 by decide)
  have hsecond := mul_injective_of_inverse
    (show (0x94d049bb133111eb : UInt64) * 0x319642b2d24d8ec3 = 1 by decide)
  exact (xor_shiftRight_injective (k := 31) (by decide) (by decide)).comp <| hsecond.comp <|
    (xor_shiftRight_injective (k := 27) (by decide) (by decide)).comp <| hfirst.comp <|
      xor_shiftRight_injective (k := 30) (by decide) (by decide)

/-! ## Words of bytes -/

/-- Bytes are digits of base 256. -/
theorem lt_of_mem_toNat {bytes : List UInt8} : ∀ n ∈ bytes.map UInt8.toNat, n < 256 := by
  rw [List.forall_mem_map]
  exact fun b _ => b.toNat_lt

/-- The bytes of a word are its digits. -/
theorem toNat_word {bytes : List UInt8} (h : bytes.length ≤ 8) :
    (word bytes).toNat = Nat.ofDigits 256 (bytes.map UInt8.toNat) := by
  induction bytes with
  | nil => rfl
  | cons b rest ih =>
    rw [List.length_cons] at h
    have hrest := ih (by omega)
    have hroom : (word rest).toNat < 256 ^ 7 := by
      rw [hrest]
      refine (Nat.ofDigits_lt_base_pow_length (by decide) lt_of_mem_toNat).trans_le
        (Nat.pow_le_pow_right (by decide) ?_)
      rw [List.length_map]
      omega
    have hshift : ((word rest) <<< 8).toNat = 2 ^ 8 * (word rest).toNat := by
      rw [UInt64.toNat_shiftLeft, show (8 : UInt64).toNat % 64 = 8 from rfl, Nat.shiftLeft_eq,
        Nat.mod_eq_of_lt (by omega), Nat.mul_comm]
    rw [word, UInt64.toNat_or, UInt8.toNat_toUInt64, hshift, Nat.or_comm,
      ← Nat.two_pow_add_eq_or_of_lt b.toNat_lt, hrest, List.map_cons, Nat.ofDigits_cons,
      Nat.add_comm]

/-- Blocks of one length with the same word are the same. -/
theorem word_inj {xs ys : List UInt8} (hx : xs.length ≤ 8) (hlength : xs.length = ys.length)
    (h : word xs = word ys) : xs = ys := by
  have hdigits := congrArg UInt64.toNat h
  rw [toNat_word hx, toNat_word (hlength ▸ hx)] at hdigits
  have hmap := Nat.ofDigits_inj_of_len_eq (by decide) (by simpa using hlength)
    lt_of_mem_toNat lt_of_mem_toNat hdigits
  exact List.map_injective_iff.mpr (fun _ _ => UInt8.toNat_inj.mp) hmap

/-! ## Hashes -/

/-- The first block is mixed in, then the rest is hashed. -/
theorem hash_of_ne_nil {bytes : List UInt8} (h : bytes ≠ []) (seed : UInt64) :
    hash bytes seed = hash (bytes.drop 8) (scramble (seed ^^^ word (bytes.take 8))) := by
  cases bytes with
  | nil => exact absurd rfl h
  | cons b rest => rw [hash, List.drop_succ_cons, List.take_succ_cons]

/-- Different seeds give different hashes of the same bytes. -/
theorem hash_injective (bytes : List UInt8) : Function.Injective (hash bytes) := by
  intro seed seed' h
  fun_induction hash bytes seed generalizing seed' with
  | case1 => simpa [hash] using h
  | case2 seed b rest ih =>
    rw [hash] at h
    exact (UInt64.xor_left_inj _).mp (scramble_injective (ih h))

/-- Bytes of one length that differ, all differences being in the block of eight bytes with a
number. The last block may be shorter. -/
@[mk_iff]
structure DifferInBlock (i : Nat) (xs ys : List UInt8) : Prop where
  length_eq : xs.length = ys.length
  ne : xs ≠ ys
  before : xs.take (8 * i) = ys.take (8 * i)
  after : xs.drop (8 * (i + 1)) = ys.drop (8 * (i + 1))

namespace DifferInBlock

variable {i : Nat} {xs ys : List UInt8}

instance : Decidable (DifferInBlock i xs ys) :=
  decidable_of_iff _ (differInBlock_iff i xs ys).symm

theorem left_ne_nil (h : DifferInBlock i xs ys) : xs ≠ [] := by
  rintro rfl
  exact h.ne (List.eq_nil_of_length_eq_zero h.length_eq.symm).symm

theorem right_ne_nil (h : DifferInBlock i xs ys) : ys ≠ [] := by
  rintro rfl
  exact h.ne (List.eq_nil_of_length_eq_zero h.length_eq)

/-- Behind the first block a difference is one block closer. -/
theorem tail (h : DifferInBlock (i + 1) xs ys) :
    xs.take 8 = ys.take 8 ∧ DifferInBlock i (xs.drop 8) (ys.drop 8) := by
  have hfirst : xs.take 8 = ys.take 8 := by
    have htake := congrArg (List.take 8) h.before
    rwa [List.take_take, List.take_take, Nat.min_eq_left (by omega)] at htake
  refine ⟨hfirst, by simp [h.length_eq], fun hrest => h.ne ?_, ?_, ?_⟩
  · rw [← List.take_append_drop 8 xs, hfirst, hrest, List.take_append_drop]
  · have hdrop := congrArg (List.drop 8) h.before
    rwa [List.drop_take, List.drop_take, show 8 * (i + 1) - 8 = 8 * i by omega] at hdrop
  · rw [List.drop_drop, List.drop_drop, show 8 + 8 * (i + 1) = 8 * (i + 1 + 1) by omega]
    exact h.after

/-- A difference in one block is a difference of the hashes. -/
theorem hash_ne (h : DifferInBlock i xs ys) (seed : UInt64) : hash xs seed ≠ hash ys seed := by
  induction i generalizing xs ys seed with
  | zero =>
    rw [hash_of_ne_nil h.left_ne_nil, hash_of_ne_nil h.right_ne_nil, h.after]
    intro heq
    have hword : word (xs.take 8) = word (ys.take 8) :=
      (UInt64.xor_right_inj seed).mp (scramble_injective (hash_injective _ heq))
    have hfirst : xs.take 8 = ys.take 8 :=
      word_inj (List.length_take_le 8 xs) (by simp [h.length_eq]) hword
    exact h.ne (by rw [← List.take_append_drop 8 xs, hfirst, h.after, List.take_append_drop])
  | succ i ih =>
    obtain ⟨hfirst, hrest⟩ := h.tail
    rw [hash_of_ne_nil h.left_ne_nil, hash_of_ne_nil h.right_ne_nil, hfirst]
    exact ih hrest _

end DifferInBlock

/-! ## Names -/

/-- Digits of base 32 tell numbers apart. -/
theorem digit32_inj : ∀ m < 32, ∀ n < 32, digit32 m = digit32 n → m = n := by decide +kernel

/-- Only numbers below 32 are written with one digit. -/
theorem length_base32_eq_one_iff {n : Nat} : (base32 n).length = 1 ↔ n < 32 := by
  have hpos : 0 < (base32 (n / 32)).length := by fun_cases base32 (n / 32) <;> simp
  fun_cases base32 n with
  | case1 hn => simp [hn]
  | case2 hn =>
    rw [List.length_append, List.length_singleton]
    omega

/-- Different numbers are written differently in base 32. -/
theorem base32_injective : Function.Injective base32 := by
  intro m
  induction m using Nat.strongRecOn with
  | ind m ih =>
    intro n h
    have hshort : m < 32 ↔ n < 32 := by
      rw [← length_base32_eq_one_iff, h, length_base32_eq_one_iff]
    rw [base32.eq_def m, base32.eq_def n] at h
    by_cases hm : m < 32
    · have hn := hshort.mp hm
      rw [if_pos hm, if_pos hn, List.singleton_inj] at h
      exact digit32_inj m hm n hn h
    · rw [if_neg hm, if_neg (mt hshort.mpr hm)] at h
      obtain ⟨hhigh, hlow⟩ := List.append_inj' h rfl
      have hdiv : m / 32 = n / 32 := ih (m / 32) (by omega) hhigh
      have hmod : m % 32 = n % 32 := digit32_inj _ (Nat.mod_lt m (by decide)) _
        (Nat.mod_lt n (by decide)) (List.singleton_inj.mp hlow)
      omega

/-- Bodies that differ in one block are told apart by the names of their functions. -/
theorem DifferInBlock.name_ne {i : Nat} {xs ys : List UInt8} (h : DifferInBlock i xs ys)
    (kind : List UInt8) : nameOfBytes kind xs ≠ nameOfBytes kind ys := by
  intro hname
  have htext := congrArg String.toList hname
  rw [toList_nameOfBytes, toList_nameOfBytes, List.append_cancel_left_eq, List.cons.injEq] at htext
  exact h.hash_ne _ (UInt64.toNat_inj.mp (base32_injective htext.2))

end Shader

/-! ## Node functions -/

namespace Compiler

open Shader

variable {c : Compiler} {g : Graph} {order : List NodeId}

/-- In a generated shader, nodes of one kind whose bodies differ in one block have functions of
different names. -/
theorem name_ne_of_generate {c' : Compiler} {shader : Shader}
    (h : c.generate g order = (.ok shader, c')) {a b : NodeCode} (ha : a ∈ shader.nodes)
    (hb : b ∈ shader.nodes) (hkind : a.kind = b.kind) {i : Nat}
    (hdiffer : DifferInBlock i (utf8 a.body) (utf8 b.body)) : a.name ≠ b.name := by
  obtain ⟨done, hfinish, rfl, -⟩ := generate_eq_ok_iff.mp h
  obtain ⟨inner, last, hparts, hcodes, -, hinner, -⟩ := exists_last_of_finish hfinish
  have hname : ∀ part ∈ inner ++ [last], part.code.name = if part.isOutput then entryPoint
      else functionName part.code.kind part.code.body := by
    intro part hpart
    obtain ⟨n, shared, uniforms, calls, inlines, -, rfl⟩ :=
      exists_node_of_contributes (contributes_of_partsFrom hparts) hpart
    rfl
  have hends : ∀ part ∈ inner ++ [last], part.isOutput = true → part = last := by
    intro part hpart hends
    rcases List.mem_append.mp hpart with hmem | hmem
    · rw [hinner part hmem] at hends
      cases hends
    · exact List.mem_singleton.mp hmem
  change a ∈ done.codes at ha
  change b ∈ done.codes at hb
  rw [hcodes] at ha hb
  obtain ⟨part, hpart, rfl⟩ := List.mem_map.mp ha
  obtain ⟨part', hpart', rfl⟩ := List.mem_map.mp hb
  rw [hname part hpart, hname part' hpart', hkind]
  by_cases hout : part.isOutput = true <;> by_cases hout' : part'.isOutput = true
  · have hsame : part = part' := (hends part hpart hout).trans (hends part' hpart' hout').symm
    exact absurd (by rw [hsame]) hdiffer.ne
  · rw [if_pos hout, if_neg hout']
    exact (nameOfBytes_ne_entryPoint _ _).symm
  · rw [if_neg hout, if_pos hout']
    exact nameOfBytes_ne_entryPoint _ _
  · rw [if_neg hout, if_neg hout']
    exact hdiffer.name_ne _

end Compiler

namespace Shader

/-- Hashing any bytes is a bijection of the seed; bytes of one length that differ in one block
only, the last one included, have different hashes from every seed; and node functions of one kind
whose bodies differ that way have different names, also those of the nodes of a generated shader. -/
theorem hashes_lose_nothing :
    (∀ bytes, Function.Bijective (hash bytes)) ∧
    (∀ (seed : UInt64) (i : Nat) (xs ys : List UInt8), DifferInBlock i xs ys →
      hash xs seed ≠ hash ys seed) ∧
    (∀ (kind : List UInt8) (i : Nat) (xs ys : List UInt8), DifferInBlock i xs ys →
      nameOfBytes kind xs ≠ nameOfBytes kind ys) ∧
    ∀ (c c' : Compiler) (g : Graph) (order : List NodeId) (shader : Shader),
      c.generate g order = (.ok shader, c') → ∀ a ∈ shader.nodes, ∀ b ∈ shader.nodes,
        a.kind = b.kind → ∀ i, DifferInBlock i (utf8 a.body) (utf8 b.body) → a.name ≠ b.name := by
  refine ⟨fun bytes => ?_, fun seed _ _ _ h => h.hash_ne seed, fun kind _ _ _ h => h.name_ne kind,
    ?_⟩
  · exact Finite.injective_iff_bijective.mp (hash_injective bytes)
  · intro c c' g order shader hok a ha b hb hkind i hdiffer
    exact Compiler.name_ne_of_generate hok ha hb hkind hdiffer

/-- Edits that join two spheres of different radii. -/
def twoRadii : List Edit :=
  [.addNode "sphere", .addNode "sphere", .setParameter 2 "radius" 2, .addNode "union",
    .addNode "output", .connect (.outOf 1 0) (.into 3 0), .connect (.outOf 2 0) (.into 3 1),
    .connect (.outOf 3 0) (.into 4 0)]

/-- The bodies of the two spheres differ in their second block, which is not full. -/
theorem differ_twoRadii :
    (({} : Compiler).generate ((Graph.empty .standard).run twoRadii) [1, 2, 3, 4]).1.toOption.map
      (fun shader => decide (∃ a ∈ shader.nodes, ∃ b ∈ shader.nodes,
        a.kind = b.kind ∧ (utf8 a.body).length = 13 ∧
          DifferInBlock 1 (utf8 a.body) (utf8 b.body))) = some true := by
  rw [Catalog.standard_eq]
  decide +kernel

/-- The functions of the two spheres have different names, as their bodies have different hashes
from every seed. -/
theorem hashes_lose_nothing_twoRadii :
    ∃ shader c', ({} : Compiler).generate ((Graph.empty .standard).run twoRadii) [1, 2, 3, 4] =
        (.ok shader, c') ∧
      ∃ a ∈ shader.nodes, ∃ b ∈ shader.nodes, a.kind = b.kind ∧ (utf8 a.body).length = 13 ∧
        DifferInBlock 1 (utf8 a.body) (utf8 b.body) ∧ a.name ≠ b.name ∧
        nameOfBytes (utf8 a.kind) (utf8 a.body) ≠ nameOfBytes (utf8 a.kind) (utf8 b.body) ∧
        ∀ seed, hash (utf8 a.body) seed ≠ hash (utf8 b.body) seed := by
  obtain ⟨shader, c', hok, hdecide⟩ := Compiler.exists_shader differ_twoRadii
  obtain ⟨a, ha, b, hb, hkind, hlength, hdiffer⟩ := of_decide_eq_true hdecide
  obtain ⟨-, hhash, hname, hnodes⟩ := hashes_lose_nothing
  exact ⟨shader, c', hok, a, ha, b, hb, hkind, hlength, hdiffer,
    hnodes _ _ _ _ _ hok a ha b hb hkind 1 hdiffer, hname _ 1 _ _ hdiffer,
    fun seed => hhash seed 1 _ _ hdiffer⟩

end Shader

end FieldGraph
