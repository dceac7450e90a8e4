import FieldGraph.Shader.Library
import Mathlib.Tactic.Common

/-!
# The function library is well formed

What a definition declares is read off its text: it is the word between the first blank and the
opening parenthesis. The text of a definition starts with its head, so the statements behind it
play no part, and the functions of the library are accepted by looking at their heads. No two of
them share a name.
-/

namespace FieldGraph

namespace Text

/-- Nothing is dropped from a text whose first character stays. -/
theorem dropWhile_of_head? {p : Char → Bool} {cs : List Char}
    (h : ∀ c ∈ cs.head?, p c = false) : cs.dropWhile p = cs := by
  cases cs with
  | nil => rfl
  | cons c rest => exact List.dropWhile_cons_of_neg (by simp [h c rfl])

/-- A text whose ends are not blank is not trimmed. -/
theorem trimBlanks_eq_self {cs : List Char} (hfirst : ∀ c ∈ cs.head?, isBlank c = false)
    (hlast : ∀ c ∈ cs.getLast?, isBlank c = false) : trimBlanks cs = cs := by
  rw [trimBlanks, dropWhile_of_head? hfirst, dropWhile_of_head? (by rwa [List.head?_reverse]),
    List.reverse_reverse]

/-- A space at the start is trimmed. -/
theorem trimBlanks_space (cs : List Char) : trimBlanks (' ' :: cs) = trimBlanks cs := by
  rw [trimBlanks, List.dropWhile_cons_of_pos (by decide), trimBlanks]

end Text

namespace Shader

/-- A text without blanks and opening parentheses. -/
def isWord (cs : List Char) : Bool := !cs.isEmpty && cs.all fun c => !Text.isBlank c && c != '('

/-- Whether the head of a definition is a type, a name and arguments in parentheses. -/
def heads (name head : String) : Bool :=
  let type := head.toList.takeWhile (· ≠ ' ')
  isWord type && isWord name.toList && (type ++ ' ' :: name.toList ++ ['(']).isPrefixOf head.toList

/-- A definition declares the name in its head. -/
theorem declaredName_definition {name head : String} (h : heads name head = true)
    (statements : List String) : declaredName (definition head statements) = .ok name := by
  simp only [heads, isWord, Bool.and_eq_true, Bool.not_eq_true', List.isEmpty_eq_false_iff,
    List.all_eq_true, bne_iff_ne, List.isPrefixOf_iff_prefix] at h
  generalize head.toList.takeWhile (· ≠ ' ') = type at h
  obtain ⟨⟨⟨htype, htypes⟩, hname, hnames⟩, arguments, harguments⟩ := h
  obtain ⟨first, letters, rfl⟩ := List.exists_cons_of_ne_nil htype
  obtain ⟨body, hsource⟩ : ∃ body, (definition head statements).toList =
      first :: letters ++ ' ' :: name.toList ++ '(' :: body ++ ['\x7d'] :=
    ⟨arguments ++ " \x7b\n".toList ++ _, by simp [definition, ← harguments]; rfl⟩
  have htrim : Text.trimBlanks (first :: letters ++ ' ' :: name.toList ++ '(' :: body ++ ['\x7d']) =
      first :: letters ++ ' ' :: name.toList ++ '(' :: body ++ ['\x7d'] := by
    refine Text.trimBlanks_eq_self ?_ ?_
    · simp [htypes first List.mem_cons_self]
    · rw [List.getLast?_concat]
      rintro c ⟨⟩
      rfl
  have hhead : (first :: letters ++ ' ' :: name.toList ++ '(' :: body ++ ['\x7d']).takeWhile
      (· ≠ '(') = first :: letters ++ ' ' :: name.toList := by
    rw [List.append_assoc, List.takeWhile_append_of_pos]
    · simp
    · intro c hc
      rcases List.mem_append.mp hc with hc | hc
      · simp [(htypes c hc).2]
      · rcases List.mem_cons.mp hc with rfl | hc
        · decide
        · simp [(hnames c hc).2]
  have hword : Text.trimBlanks ((first :: letters ++ ' ' :: name.toList).dropWhile (· ≠ ' ')) =
      name.toList := by
    rw [List.dropWhile_append_of_pos, List.dropWhile_cons_of_neg (by simp), Text.trimBlanks_space,
      Text.trimBlanks_eq_self]
    · exact fun c hc => (hnames c (List.mem_of_mem_head? hc)).1
    · exact fun c hc => (hnames c (List.mem_of_mem_getLast? hc)).1
    · intro c hc
      have hblank := (htypes c hc).1
      simp only [ne_eq, decide_eq_true_eq]
      rintro rfl
      cases hblank
  rw [declaredName, hsource]
  simp only [htrim, hhead, hword]
  simp

/-- A function that both definitions declare under its name is accepted. -/
theorem check_definition {name glsl wgsl : String} (hglsl : heads name glsl = true)
    (hwgsl : heads name wgsl = true) (statements statements' : List String) :
    Function.check ⟨name, definition glsl statements, definition wgsl statements'⟩ = .ok () := by
  have hname : name ≠ "" := by
    rintro rfl
    simp [heads, isWord] at hglsl
  have hne (head : String) (lines : List String) : definition head lines ≠ "" := by
    simp [definition, String.append_eq_empty_iff]
  rw [Function.check, if_neg hname, if_neg (by simp [hne])]
  simp only [declaredName_definition hglsl, declaredName_definition hwgsl]
  simp [bind, Except.bind]

namespace Library

/-- All functions of the library. -/
def functions : List Function :=
  [box, torus, bend, twist, mirror, smoothUnion, smoothIntersection, smoothDifference]

/-- Every function of the library is accepted. -/
theorem check_eq_ok : ∀ f ∈ functions, f.check = .ok () := by
  simp only [functions, List.forall_mem_cons]
  refine ⟨?_, ?_, ?_, ?_, ?_, ?_, ?_, ?_, by simp⟩ <;>
    exact check_definition (by decide +kernel) (by decide +kernel) _ _

/-- Functions of the library are known by their names. -/
theorem eq_of_name : ∀ f ∈ functions, ∀ f' ∈ functions, f.name = f'.name → f = f' := by
  decide +kernel

end Library

end Shader

end FieldGraph
