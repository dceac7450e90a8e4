import FieldGraph.Proofs.Shader.Syntax

/-!
# Operands

An operand is written without parentheses when a scan over its characters finds no operator
outside brackets. The scan keeps no tree, so it is compared with the grammar: brackets are
balanced in everything that is spelled, hence the scan comes back to the depth it started from,
and a sign or an operator that is not inside brackets makes it fail. What passes the scan is
therefore a selection, and `paren` leaves no text that could be grouped in another way.
-/

namespace FieldGraph.Snippet

open Shader

/-! ## The scan -/

/-- The scan passes over the characters of words. -/
theorem atomFrom_word {w rest : List Char} {d : Int} (hw : ∀ c ∈ w, isWordChar c = true) :
    atomFrom d (w ++ rest) = atomFrom d rest := by
  induction w with
  | nil => rfl
  | cons c w ih =>
    have hc := hw c (List.mem_cons_self ..)
    have hopen : ¬ (c = '(' ∨ c = '[') := by
      rintro (rfl | rfl) <;> cases hc
    have hclose : ¬ (c = ')' ∨ c = ']') := by
      rintro (rfl | rfl) <;> cases hc
    rw [List.cons_append, atomFrom, if_neg hopen, if_neg hclose, hc,
      ih fun x hx => hw x (List.mem_cons_of_mem c hx)]
    simp

/-- The characters of names are those of words. -/
theorem isWordChar_of_isNameChar {c : Char} (h : isNameChar c = true) : isWordChar c = true := by
  simp only [isNameChar, Char.isAlphanum, Char.isAlpha, Char.isUpper, Char.isLower, Char.isDigit,
    Bool.or_eq_true, Bool.and_eq_true, decide_eq_true_eq, beq_iff_eq, ge_iff_le] at h
  simp only [isWordChar, Bool.or_eq_true, Bool.and_eq_true, decide_eq_true_eq, beq_iff_eq,
    Char.le_def]
  tauto

/-- Names are words. -/
theorem isWordChar_of_isName {w : List Char} (h : isName w = true) :
    ∀ c ∈ w, isWordChar c = true :=
  fun c hc => isWordChar_of_isNameChar (List.all_eq_true.mp (all_of_isName h) c hc)

/-- Rows of digits are words. -/
theorem isWordChar_of_isDigits {ds : List Char} (h : isDigits ds = true) :
    ∀ c ∈ ds, isWordChar c = true := by
  intro c hc
  have hdigit := List.all_eq_true.mp (Bool.and_eq_true_iff.mp h).2 c hc
  exact isWordChar_of_isNameChar (by simp [isNameChar, Char.isAlphanum, hdigit])

/-- A bracket that opens counts up. -/
theorem atomFrom_open {c : Char} (hc : c = '(' ∨ c = '[') (d : Int) (rest : List Char) :
    atomFrom d (c :: rest) = atomFrom (d + 1) rest := by
  rw [atomFrom, if_pos hc]

/-- A bracket that closes another inside brackets counts down. -/
theorem atomFrom_close {c : Char} (hc : c = ')' ∨ c = ']') {d : Int} (hd : 0 < d)
    (rest : List Char) : atomFrom (d + 1) (c :: rest) = atomFrom d rest := by
  have hopen : ¬ (c = '(' ∨ c = '[') := by
    rintro (rfl | rfl) <;> simp at hc
  have hstay : ¬ (d + 1 - 1 = 0 ∧ c = ')' ∧ rest ≠ []) := by omega
  rw [atomFrom, if_neg hopen, if_pos hc, if_neg hstay, Int.add_sub_cancel]

/-- Inside brackets the scan passes over everything but brackets. -/
theorem atomFrom_skip {c : Char} (hc : c ∉ ['(', '[', ')', ']']) {d : Int} (hd : 0 < d)
    (rest : List Char) : atomFrom d (c :: rest) = atomFrom d rest := by
  simp only [List.mem_cons, List.not_mem_nil, or_false, not_or] at hc
  have hopen : ¬ (c = '(' ∨ c = '[') := by tauto
  have hclose : ¬ (c = ')' ∨ c = ']') := by tauto
  rw [atomFrom, if_neg hopen, if_neg hclose, if_pos hd]

/-- Inside brackets the scan passes over everything that is spelled. -/
theorem atomFrom_spells {phrase : Phrase} {cs : List Char} (h : Spells phrase cs) {d : Int}
    (hd : 0 < d) (rest : List Char) : atomFrom d (cs ++ rest) = atomFrom d rest := by
  induction h generalizing d rest with
  | name hw => exact atomFrom_word (isWordChar_of_isName hw)
  | literal hw hp =>
    rw [List.append_assoc, List.cons_append, atomFrom_word (isWordChar_of_isDigits hw),
      atomFrom_skip (by decide) hd, atomFrom_word (isWordChar_of_isDigits hp)]
  | call hf _ ih =>
    rw [List.append_assoc, List.cons_append, List.append_assoc, List.singleton_append,
      atomFrom_word (isWordChar_of_isName hf), atomFrom_open (by decide),
      ih (by omega), atomFrom_close (by decide) hd]
  | group _ ih =>
    rw [List.cons_append, List.append_assoc, List.singleton_append, atomFrom_open (by decide),
      ih (by omega), atomFrom_close (by decide) hd]
  | member _ hw ih =>
    rw [List.append_assoc, List.cons_append, ih hd, atomFrom_skip (by decide) hd,
      atomFrom_word (isWordChar_of_isName hw)]
  | item _ hi ih =>
    rw [List.append_assoc, List.cons_append, List.append_assoc, List.singleton_append, ih hd,
      atomFrom_open (by decide), atomFrom_word (isWordChar_of_isDigits hi),
      atomFrom_close (by decide) hd]
  | neg _ ih => rw [List.cons_append, atomFrom_skip (by decide) hd, ih hd]
  | mul _ _ iha ihb | div _ _ iha ihb | sub _ _ iha ihb | next _ _ iha ihb =>
    rw [List.append_assoc, List.cons_append, iha hd, atomFrom_skip (by decide) hd, ihb hd]
  | selection _ ih | sign _ ih | product _ ih | difference _ ih | last _ ih => exact ih hd rest

/-- The characters of signs and operators. -/
def isOperator (c : Char) : Bool := c == '-' || c == '*' || c == '/'

/-- Outside brackets an operator makes the scan fail. -/
theorem atomFrom_operator {c : Char} (hc : isOperator c = true) (rest : List Char) :
    atomFrom 0 (c :: rest) = false := by
  simp only [isOperator, Bool.or_eq_true, beq_iff_eq] at hc
  obtain (rfl | rfl) | rfl := hc <;> rfl

/-- No selection of components holds an operator. -/
theorem isSwizzle_of_operator {rest : List Char} {c : Char} (hmem : c ∈ rest)
    (hc : isOperator c = true) : isSwizzle rest = false := by
  unfold isSwizzle
  split
  next d later =>
    have hop : isComponent c = false := by
      simp only [isOperator, Bool.or_eq_true, beq_iff_eq] at hc
      obtain (rfl | rfl) | rfl := hc <;> rfl
    have hne : c ≠ '.' := by
      rintro rfl
      cases hc
    have hlater : c ∈ d :: later := (List.mem_cons.mp hmem).resolve_left hne
    exact List.all_eq_false.mpr ⟨c, hlater, by simp [hop]⟩
  · rfl

/-- A parenthesis that closes the outermost one ends the scan. -/
theorem atomFrom_last {rest : List Char} (hrest : rest ≠ []) :
    atomFrom 1 (')' :: rest) = isSwizzle rest := by
  rw [atomFrom, if_neg (by decide), if_pos (by decide), if_pos ⟨by decide, rfl, hrest⟩]

/-- A scan that fails on what follows an expression because of an operator fails on the whole. -/
theorem atomFrom_spells_operator {phrase : Phrase} {cs : List Char} (h : Spells phrase cs)
    {level : Level} {t : Term} (hphrase : phrase = .term level t) {rest : List Char} {c : Char}
    (hmem : c ∈ rest) (hc : isOperator c = true) (hrest : atomFrom 0 rest = false) :
    atomFrom 0 (cs ++ rest) = false := by
  induction h generalizing level t rest c with
  | name hw => rw [atomFrom_word (isWordChar_of_isName hw), hrest]
  | literal hw hp =>
    rw [List.append_assoc, List.cons_append, atomFrom_word (isWordChar_of_isDigits hw),
      ← List.singleton_append, atomFrom_word (List.forall_mem_singleton.mpr rfl),
      atomFrom_word (isWordChar_of_isDigits hp), hrest]
  | call hf hrow _ =>
    rw [List.append_assoc, List.cons_append, List.append_assoc, List.singleton_append,
      atomFrom_word (isWordChar_of_isName hf), atomFrom_open (by decide),
      atomFrom_spells hrow (by omega)]
    exact (atomFrom_last (List.ne_nil_of_mem hmem)).trans (isSwizzle_of_operator hmem hc)
  | group hinner _ =>
    rw [List.cons_append, List.append_assoc, List.singleton_append, atomFrom_open (by decide),
      atomFrom_spells hinner (by omega)]
    exact (atomFrom_last (List.ne_nil_of_mem hmem)).trans (isSwizzle_of_operator hmem hc)
  | @member _ w _ _ hw ih =>
    rw [List.append_assoc]
    refine ih rfl (List.mem_append_right _ hmem) hc ?_
    rw [List.cons_append, ← List.singleton_append,
      atomFrom_word (List.forall_mem_singleton.mpr rfl), atomFrom_word (isWordChar_of_isName hw), hrest]
  | @item _ digits _ _ hi ih =>
    rw [List.append_assoc]
    refine ih rfl (List.mem_append_right _ hmem) hc ?_
    rw [List.cons_append, List.append_assoc, List.singleton_append, atomFrom_open (by decide),
      atomFrom_word (isWordChar_of_isDigits hi), atomFrom, if_neg (by decide),
      if_pos (by decide), if_neg (by simp)]
    exact hrest
  | neg _ _ => exact atomFrom_operator rfl _
  | mul _ _ iha _ | div _ _ iha _ | sub _ _ iha _ =>
    rw [List.append_assoc, List.cons_append]
    exact iha rfl (List.mem_cons_self ..) rfl (atomFrom_operator rfl _)
  | selection _ ih | sign _ ih | product _ ih | difference _ ih => exact ih rfl hmem hc hrest
  | last _ _ | next _ _ _ _ => cases hphrase

/-! ## Operands and calls -/

/-- A text whose outermost construct is a sign or an operator. -/
inductive Operated : List Char → Prop where
  | neg {cs : List Char} {t : Term} (h : Spells (.term .sign t) cs) : Operated ('-' :: cs)
  | mul {cs ds : List Char} {a b : Term} (ha : Spells (.term .product a) cs)
      (hb : Spells (.term .sign b) ds) : Operated (cs ++ '*' :: ds)
  | div {cs ds : List Char} {a b : Term} (ha : Spells (.term .product a) cs)
      (hb : Spells (.term .sign b) ds) : Operated (cs ++ '/' :: ds)
  | sub {cs ds : List Char} {a b : Term} (ha : Spells (.term .difference a) cs)
      (hb : Spells (.term .product b) ds) : Operated (cs ++ '-' :: ds)

/-- The scan fails on a sign or an operator that is outermost. -/
theorem atomFrom_operated {cs : List Char} (h : Operated cs) : atomFrom 0 cs = false := by
  cases h with
  | neg _ => exact atomFrom_operator rfl _
  | mul ha _ | div ha _ | sub ha _ =>
    exact atomFrom_spells_operator ha rfl List.mem_cons_self rfl (atomFrom_operator rfl _)

/-- An expression without an outermost sign or operator is a selection. -/
theorem operated_or_selection {t : Term} {cs : List Char}
    (h : Spells (.term .difference t) cs) : Operated cs ∨ Spells (.term .selection t) cs := by
  cases h with
  | sub ha hb => exact .inl (.sub ha hb)
  | difference h =>
    cases h with
    | mul ha hb => exact .inl (.mul ha hb)
    | div ha hb => exact .inl (.div ha hb)
    | product h =>
      cases h with
      | neg h => exact .inl (.neg h)
      | sign h => exact .inr h

/-- What passes the scan is a selection. -/
theorem selection_of_atomFrom {t : Term} {cs : List Char} (h : Spells (.term .difference t) cs)
    (hscan : atomFrom 0 cs = true) : Spells (.term .selection t) cs := by
  refine (operated_or_selection h).resolve_left fun hop => ?_
  rw [atomFrom_operated hop] at hscan
  cases hscan

/-- An atom passes the scan. -/
theorem atomFrom_of_isAtom {e : String} (h : isAtom e = true) : atomFrom 0 e.toList = true := by
  unfold isAtom at h
  split at h
  · cases h
  · exact h

/-- An operand is a selection of the same meaning as what it was made of. -/
theorem spells_paren {t : Term} {e : String} (h : Spells (.term .difference t) e.toList) :
    Spells (.term .selection t) (paren e).toList := by
  unfold paren
  split
  next hatom => exact selection_of_atomFrom h (atomFrom_of_isAtom hatom)
  next =>
    rw [String.toList_append, String.toList_append]
    exact (Spells.group h).selection

end FieldGraph.Snippet
