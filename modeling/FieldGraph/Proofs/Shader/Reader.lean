import FieldGraph.Proofs.Shader.Syntax

/-!
# What is read is spelled

The grammar of expressions says how texts are put together, and the reader reads whatever is put
together that way. The converse holds too: what the reader takes off the front of a text spells
what the reader makes of it, whatever the fuel. A text is therefore read as an expression exactly
if it spells that expression.
-/

namespace FieldGraph.Shader

/-! ## Words, digits and atoms -/

/-- A text starts with what spells a phrase, and the rest follows. -/
def Starts (phrase : Phrase) (cs rest : List Char) : Prop :=
  ∃ used, cs = used ++ rest ∧ Spells phrase used

theorem name_of_readName {cs rest : List Char} {word : String}
    (h : readName cs = some (word, rest)) :
    ∃ w, cs = w ++ rest ∧ isName w = true ∧ word = String.ofList w := by
  simp only [readName, Option.ite_none_right_eq_some] at h
  obtain ⟨hname, he⟩ := h
  cases he
  exact ⟨_, List.takeWhile_append_dropWhile.symm, hname, rfl⟩

theorem digits_of_readDigits {cs ds rest : List Char} (h : readDigits cs = some (ds, rest)) :
    cs = ds ++ rest ∧ isDigits ds = true := by
  simp only [readDigits, Option.ite_none_right_eq_some] at h
  obtain ⟨hdigits, he⟩ := h
  cases he
  exact ⟨List.takeWhile_append_dropWhile.symm, hdigits⟩

theorem starts_of_readLiteral {cs rest : List Char} {t : Term}
    (h : readLiteral cs = some (t, rest)) : Starts (.term .atom t) cs rest := by
  unfold readLiteral at h
  split at h
  next whole later hwhole =>
    obtain ⟨rfl, hw⟩ := digits_of_readDigits hwhole
    split at h
    next part _ hpart =>
      obtain ⟨rfl, hp⟩ := digits_of_readDigits hpart
      cases h
      exact ⟨whole ++ '.' :: part, by simp, .literal hw hp⟩
    next => cases h
  next => cases h

/-- An atom that is read is spelled, if what stands in its parentheses is. -/
theorem starts_of_readAtom {inside : List Char → Option (Term × List Char)}
    {row : List Char → Option (List Term × List Char)}
    (hinside : ∀ {cs t rest}, inside cs = some (t, rest) → Starts (.term .difference t) cs rest)
    (hrow : ∀ {cs ts rest}, row cs = some (ts, rest) → Starts (.row ts) cs (')' :: rest))
    {cs rest : List Char} {t : Term} (h : readAtom inside row cs = some (t, rest)) :
    Starts (.term .atom t) cs rest := by
  unfold readAtom at h
  split at h
  next word later hname =>
    obtain ⟨w, rfl, hw, rfl⟩ := name_of_readName hname
    obtain ⟨⟨ts, _⟩, hts, he⟩ := Option.map_eq_some_iff.mp h
    cases he
    obtain ⟨used, rfl, hused⟩ := hrow hts
    exact ⟨w ++ '(' :: (used ++ [')']), by simp, .call hw hused⟩
  next word _ _ hname =>
    obtain ⟨w, rfl, hw, rfl⟩ := name_of_readName hname
    cases h
    exact ⟨w, rfl, .name hw⟩
  next later _ =>
    split at h
    next t' _ hclosed =>
      obtain ⟨used, rfl, hused⟩ := hinside hclosed
      cases h
      exact ⟨'(' :: (used ++ [')']), by simp, .group hused⟩
    next => cases h
  next => exact starts_of_readLiteral h

/-! ## Expressions -/

/-- What the reader makes of a text with some fuel is spelled by the text. A continuation is
spelled by what was read before it and what it reads. -/
structure Sound (fuel : Nat) : Prop where
  term : ∀ {level cs t rest}, readTerm fuel level cs = some (t, rest) →
    Starts (.term level t) cs rest
  more : ∀ {level a before cs t rest}, Spells (.term level a) before →
    readMore fuel level a cs = some (t, rest) → Starts (.term level t) (before ++ cs) rest
  row : ∀ {cs ts rest}, readRow fuel cs = some (ts, rest) → Starts (.row ts) cs (')' :: rest)

namespace Sound

variable {fuel : Nat} {level inner : Level} {cs before rest : List Char} {t a : Term}
  (ih : Sound fuel)

include ih

/-- An expression of a tighter level is read, and then more of it. -/
theorem term_bind (hloosen : ∀ {a used}, Spells (.term inner a) used → Spells (.term level a) used)
    (h : ((readTerm fuel inner cs).bind fun (a, rest) => readMore fuel level a rest) =
      some (t, rest)) : Starts (.term level t) cs rest := by
  obtain ⟨⟨a, later⟩, ha, hmore⟩ := Option.bind_eq_some_iff.mp h
  obtain ⟨used, rfl, hused⟩ := ih.term ha
  exact ih.more (hloosen hused) hmore

theorem term_succ (h : readTerm (fuel + 1) level cs = some (t, rest)) :
    Starts (.term level t) cs rest := by
  unfold readTerm at h
  split at h
  next hfuel => cases hfuel
  next hfuel =>
    cases hfuel
    exact starts_of_readAtom ih.term ih.row h
  next hfuel =>
    cases hfuel
    exact ih.term_bind .selection h
  next hfuel =>
    cases hfuel
    split at h
    next later =>
      obtain ⟨⟨b, _⟩, hb, he⟩ := Option.map_eq_some_iff.mp h
      cases he
      obtain ⟨used, rfl, hused⟩ := ih.term hb
      exact ⟨'-' :: used, rfl, hused.neg⟩
    next =>
      obtain ⟨used, rfl, hused⟩ := ih.term h
      exact ⟨used, rfl, hused.sign⟩
  next hfuel =>
    cases hfuel
    exact ih.term_bind .product h
  next hfuel =>
    cases hfuel
    exact ih.term_bind .difference h

/-- An operator and its right operand are read, and then more. -/
theorem more_bind {op : Char} {join : Term → Term} (hjoin : ∀ {b used},
      Spells (.term inner b) used → Spells (.term level (join b)) (before ++ op :: used))
    (h : ((readTerm fuel inner cs).bind fun (b, rest) => readMore fuel level (join b) rest) =
      some (t, rest)) : Starts (.term level t) (before ++ op :: cs) rest := by
  obtain ⟨⟨b, later⟩, hb, hmore⟩ := Option.bind_eq_some_iff.mp h
  obtain ⟨used, rfl, hused⟩ := ih.term hb
  have hwhole := ih.more (hjoin hused) hmore
  rwa [List.append_assoc, List.cons_append] at hwhole

theorem more_succ (hbefore : Spells (.term level a) before)
    (h : readMore (fuel + 1) level a cs = some (t, rest)) :
    Starts (.term level t) (before ++ cs) rest := by
  unfold readMore at h
  split at h
  next hfuel => cases hfuel
  next later hfuel =>
    cases hfuel
    obtain ⟨⟨word, later'⟩, hword, hmore⟩ := Option.bind_eq_some_iff.mp h
    obtain ⟨w, rfl, hw, rfl⟩ := name_of_readName hword
    have hwhole := ih.more (hbefore.member hw) hmore
    rwa [List.append_assoc, List.cons_append] at hwhole
  next later hfuel =>
    cases hfuel
    split at h
    next ds later' hdigits =>
      obtain ⟨rfl, hd⟩ := digits_of_readDigits hdigits
      have hwhole := ih.more (hbefore.item hd) h
      simpa using hwhole
    next => cases h
  next hfuel =>
    cases hfuel
    exact ih.more_bind hbefore.mul h
  next hfuel =>
    cases hfuel
    exact ih.more_bind hbefore.div h
  next hfuel =>
    cases hfuel
    exact ih.more_bind hbefore.sub h
  next =>
    cases h
    exact ⟨before, rfl, hbefore⟩

theorem row_succ {ts : List Term} (h : readRow (fuel + 1) cs = some (ts, rest)) :
    Starts (.row ts) cs (')' :: rest) := by
  rw [readRow] at h
  split at h
  next t later ht =>
    obtain ⟨used, rfl, hused⟩ := ih.term ht
    obtain ⟨⟨ts, _⟩, hts, he⟩ := Option.map_eq_some_iff.mp h
    cases he
    obtain ⟨used', rfl, hused'⟩ := ih.row hts
    exact ⟨used ++ ',' :: used', by simp, hused.next hused'⟩
  next t later ht =>
    obtain ⟨used, rfl, hused⟩ := ih.term ht
    cases h
    exact ⟨used, rfl, hused.last⟩
  next => cases h

end Sound

/-- Whatever the fuel, the reader is sound. -/
theorem sound (fuel : Nat) : Sound fuel := by
  induction fuel with
  | zero =>
    constructor
    case term =>
      intro _ _ _ _ h
      cases h
    case more =>
      intro _ _ _ _ _ _ _ h
      cases h
    case row =>
      intro _ _ _ h
      cases h
  | succ fuel ih => exact ⟨ih.term_succ, ih.more_succ, ih.row_succ⟩

/-- A text is read as an expression exactly if it spells it. -/
theorem read?_eq_some_iff {text : String} {t : Term} :
    read? text = some t ↔ Spells (.term .difference t) text.toList := by
  refine ⟨fun h => ?_, read_of_spells⟩
  unfold read? at h
  split at h
  next t' hread =>
    obtain ⟨used, htext, hused⟩ := (sound _).term hread
    cases h
    rwa [htext, List.append_nil]
  next => cases h

end FieldGraph.Shader
