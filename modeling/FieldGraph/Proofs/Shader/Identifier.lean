import FieldGraph.Kind.Pattern
import FieldGraph.Proofs.Shader.Syntax
import FieldGraph.Shader.Basic

/-!
# Names of node functions as identifiers

The name of a node function is written byte by byte from the identity of its kind, with an
underscore for whatever is no letter and no digit, and ends in the digits of a hash. Every
character of it may therefore stand in an identifier, and the underscore in front of the hash
keeps it apart from the entry point. The first character is that of the identity, which a draft
may start with a digit: exactly then the name is no identifier.
-/

namespace FieldGraph.Shader

/-! ## Characters -/

/-- Digits of base 32 are characters of names. -/
theorem isNameChar_digit32 : ∀ n < 32, isNameChar (digit32 n) = true := by decide +kernel

/-- A number in base 32 can stand inside a name. -/
theorem all_base32 (n : Nat) : (base32 n).all isNameChar = true := by
  fun_induction base32 n with
  | case1 n hn => simp [isNameChar_digit32 n hn]
  | case2 n hn ih =>
    simp [ih, isNameChar_digit32 (n % 32) (Nat.mod_lt n (by decide))]

/-- The byte of a decimal digit. -/
def isDigitByte (b : UInt8) : Bool := 48 ≤ b && b ≤ 57

/-- A byte becomes a character of names, which starts a name unless the byte is a digit. -/
theorem nameChar_spec (b : UInt8) :
    isNameChar (nameChar b) = true ∧ isNameStart (nameChar b) = !isDigitByte b := by
  have hall : ∀ n : Fin 256, isNameChar (nameChar (UInt8.ofFin n)) = true ∧
      isNameStart (nameChar (UInt8.ofFin n)) = !isDigitByte (UInt8.ofFin n) := by decide +kernel
  exact hall b.toFin

/-! ## Names -/

variable (kind body : List UInt8)

/-- The characters of a name: those of the identity, an underscore and the hash. -/
theorem toList_nameOfBytes : (nameOfBytes kind body).toList =
    kind.map nameChar ++ '_' :: base32 (hash body (hash kind 0)).toNat := by
  rw [nameOfBytes, String.toList_ofList]

/-- Every character of a name may stand in an identifier. -/
theorem all_nameOfBytes : (nameOfBytes kind body).toList.all isNameChar = true := by
  have hkind : (kind.map nameChar).all isNameChar = true := by
    rw [List.all_map, List.all_eq_true]
    exact fun b _ => (nameChar_spec b).1
  have hmark : isNameChar '_' = true := rfl
  rw [toList_nameOfBytes, List.all_append, List.all_cons, hkind, hmark, all_base32]
  rfl

/-- A name has an underscore. -/
theorem mark_mem_nameOfBytes : '_' ∈ (nameOfBytes kind body).toList := by
  rw [toList_nameOfBytes]
  exact List.mem_append_right _ List.mem_cons_self

/-- A name is an identifier exactly if the identity does not start with a digit. -/
theorem isName_nameOfBytes :
    isName (nameOfBytes kind body).toList = !kind.head?.any isDigitByte := by
  have hall := all_nameOfBytes kind body
  rw [toList_nameOfBytes] at hall ⊢
  cases kind with
  | nil =>
    rw [List.map_nil, List.nil_append, List.all_cons, Bool.and_eq_true] at hall
    exact hall.2
  | cons b rest =>
    rw [List.map_cons, List.cons_append, List.all_cons, Bool.and_eq_true] at hall
    rw [List.map_cons, List.cons_append, isName, hall.2, (nameChar_spec b).2, Bool.and_true]
    rfl

/-- No node function has the name of the entry point. -/
theorem nameOfBytes_ne_entryPoint : nameOfBytes kind body ≠ entryPoint := by
  intro h
  have hmark := mark_mem_nameOfBytes kind body
  rw [h] at hmark
  exact absurd hmark (by decide)

/-- Every name of a node function is a row of ASCII letters, digits and underscores, is not empty
and is not the name of the entry point; it is an identifier exactly if the identity of the kind
does not start with a digit. -/
theorem names_identify_unless_digit_first :
    nameOfBytes kind body ≠ "" ∧ (nameOfBytes kind body).toList.all isNameChar = true ∧
      nameOfBytes kind body ≠ entryPoint ∧
      (isName (nameOfBytes kind body).toList = true ↔ kind.head?.any isDigitByte = false) := by
  refine ⟨?_, all_nameOfBytes kind body, nameOfBytes_ne_entryPoint kind body, ?_⟩
  · intro h
    have hmark := mark_mem_nameOfBytes kind body
    rw [h] at hmark
    cases hmark
  · rw [isName_nameOfBytes, Bool.not_eq_true']

/-- A draft with an identity that starts with a digit. -/
def planar : Draft :=
  { id := "2d", category := .primitive, outputs := [⟨"distance", .distance, false⟩]
    template? := some (Pattern.template "p.x"), evaluate? := some Pattern.sum }

/-- Nothing is wrong with a draft whose identity starts with a digit, but no function of the kind
has an identifier for a name. -/
theorem not_accepted_kinds_name_identifiers :
    ¬ ∀ (d : Draft) (k : Kind) (body : String), d.toKind = .ok k →
      isName (functionName k.id body).toList = true ∧ functionName k.id body ≠ entryPoint := by
  intro h
  have haccepted : planar.toKind = .ok
      { planar.toSignature with template := Pattern.template "p.x", evaluate := Pattern.sum } := rfl
  have hname := (h planar _ "p.x" haccepted).1
  rw [functionName, isName_nameOfBytes] at hname
  have hdigit : (utf8 "2d").head?.any isDigitByte = true := by decide +kernel
  exact absurd hname (by simp [planar, hdigit])

end FieldGraph.Shader
