import FieldGraph.Proofs.Shader.Operand
import FieldGraph.Proofs.Shader.Reader

/-!
# Parentheses that can be left out

An atom is written without parentheses wherever it is an operand. That this does not change how a
text is grouped is not seen from the atom alone: the text around it is read as a whole. Everything
spelled has balanced parentheses, so a group in a text is one of the groups it was put together
from, and the induction over the grammar that finds it puts the selection in its place.
-/

namespace FieldGraph.Shader

/-! ## Balanced texts -/

/-- Every parenthesis that closes was opened before, and all are closed in the end. -/
structure Balanced (cs : List Char) : Prop where
  opened : ∀ n, (cs.take n).count ')' ≤ (cs.take n).count '('
  closed : cs.count ')' = cs.count '('

namespace Balanced

variable {cs ds : List Char}

/-- A text without parentheses is balanced. -/
theorem of_notMem (hopen : '(' ∉ cs) (hclose : ')' ∉ cs) : Balanced cs := by
  refine ⟨fun n => ?_, ?_⟩
  · rw [List.count_eq_zero_of_not_mem fun hmem => hclose (List.mem_of_mem_take hmem)]
    exact Nat.zero_le _
  · rw [List.count_eq_zero_of_not_mem hclose, List.count_eq_zero_of_not_mem hopen]

theorem append (hcs : Balanced cs) (hds : Balanced ds) : Balanced (cs ++ ds) := by
  refine ⟨fun n => ?_, ?_⟩
  · rw [List.take_append, List.count_append, List.count_append]
    exact Nat.add_le_add (hcs.opened n) (hds.opened _)
  · rw [List.count_append, List.count_append, hcs.closed, hds.closed]

/-- Balanced texts may be joined by another character. -/
theorem join {op : Char} (hop : op ≠ '(' ∧ op ≠ ')') (hcs : Balanced cs) (hds : Balanced ds) :
    Balanced (cs ++ op :: ds) := by
  have hmid : Balanced [op] := of_notMem (by simpa using hop.1.symm) (by simpa using hop.2.symm)
  exact hcs.append (hmid.append hds)

/-- A balanced text may be put in parentheses. -/
theorem group (hcs : Balanced cs) : Balanced ('(' :: (cs ++ [')'])) := by
  refine ⟨fun n => ?_, ?_⟩
  · cases n with
    | zero => simp
    | succ n =>
      have hlast : ([')'].take (n - cs.length)).count ')' ≤ 1 :=
        List.count_le_length.trans (List.length_take_le' ..)
      have hinner := hcs.opened n
      rw [List.take_succ_cons, List.take_append, List.count_cons_of_ne (by decide),
        List.count_cons_self, List.count_append, List.count_append]
      omega
  · have hclosed := hcs.closed
    simp [hclosed]

/-- No parenthesis is left open in front of a text that closes none of it. -/
theorem not_open (h : Balanced (cs ++ '(' :: ds)) (hds : ds.count ')' ≤ ds.count '(') : False := by
  have hbefore := h.opened cs.length
  have hclosed := h.closed
  rw [List.take_left] at hbefore
  rw [List.count_append, List.count_append, List.count_cons_self,
    List.count_cons_of_ne (by decide)] at hclosed
  omega

/-- No parenthesis closes a balanced text. -/
theorem not_close (h : Balanced (cs ++ ')' :: ds)) (hcs : Balanced cs) : False := by
  rw [List.append_cons] at h
  have hopened := h.opened (cs ++ [')']).length
  have hclosed := hcs.closed
  rw [List.take_left, List.count_append, List.count_append] at hopened
  have hself : [')'].count ')' = 1 := rfl
  have hother : [')'].count '(' = 0 := rfl
  omega

/-- Where a balanced text is closed, no other one is. -/
theorem close_inj {rest rest' : List Char} (hcs : Balanced cs) (hds : Balanced ds)
    (h : cs ++ ')' :: rest = ds ++ ')' :: rest') : cs = ds ∧ rest = rest' := by
  rcases List.append_eq_append_iff.mp h with ⟨mid, rfl, hmid⟩ | ⟨mid, rfl, hmid⟩
  · cases mid with
    | nil => exact ⟨by simp, (List.cons.inj hmid).2⟩
    | cons c mid =>
      obtain ⟨rfl, -⟩ := List.cons.inj hmid
      exact (hds.not_close hcs).elim
  · cases mid with
    | nil => exact ⟨by simp, (List.cons.inj hmid).2.symm⟩
    | cons c mid =>
      obtain ⟨rfl, -⟩ := List.cons.inj hmid
      exact (hcs.not_close hds).elim

end Balanced

/-- Where all characters pass a test, none is found that fails it. -/
theorem notMem_of_all {p : Char → Bool} {w : List Char} {c : Char} (h : w.all p = true)
    (hc : p c = false) : c ∉ w := by
  intro hmem
  rw [List.all_eq_true.mp h c hmem] at hc
  cases hc

theorem Balanced.of_isName {w : List Char} (h : isName w = true) : Balanced w :=
  .of_notMem (notMem_of_all (all_of_isName h) rfl) (notMem_of_all (all_of_isName h) rfl)

theorem Balanced.of_isDigits {ds : List Char} (h : isDigits ds = true) : Balanced ds :=
  have hall := (Bool.and_eq_true_iff.mp h).2
  .of_notMem (notMem_of_all hall rfl) (notMem_of_all hall rfl)

/-- What is spelled is balanced. -/
theorem Spells.balanced {phrase : Phrase} {cs : List Char} (h : Spells phrase cs) :
    Balanced cs := by
  induction h with
  | name hw => exact .of_isName hw
  | literal hw hp => exact (Balanced.of_isDigits hw).join (by decide) (.of_isDigits hp)
  | call hf _ ih => exact (Balanced.of_isName hf).append ih.group
  | group _ ih => exact ih.group
  | member _ hw ih => exact ih.join (by decide) (.of_isName hw)
  | item _ hd ih =>
    have hclose : Balanced [']'] := .of_notMem (by decide) (by decide)
    exact ih.join (by decide) ((Balanced.of_isDigits hd).append hclose)
  | neg _ ih =>
    have hnil : Balanced [] := .of_notMem (by simp) (by simp)
    exact hnil.join (by decide) ih
  | mul _ _ iha ihb | div _ _ iha ihb | sub _ _ iha ihb | next _ _ iha ihb =>
    exact iha.join (by decide) ihb
  | selection _ ih | sign _ ih | product _ ih | difference _ ih | last _ ih => exact ih

/-! ## Groups in a text -/

section

variable {xs ys e before after : List Char} (hxs : Balanced xs) (he : Balanced e)

include hxs he

/-- A group in a text with a balanced first part stands in that part or behind it. -/
theorem Balanced.split (h : xs ++ ys = before ++ '(' :: (e ++ ')' :: after)) :
    (∃ later, before = xs ++ later ∧ ys = later ++ '(' :: (e ++ ')' :: after)) ∨
      ∃ later, xs = before ++ '(' :: (e ++ ')' :: later) ∧ after = later ++ ys := by
  rcases List.append_eq_append_iff.mp h with ⟨later, rfl, rfl⟩ | ⟨mid, rfl, hmid⟩
  · exact .inl ⟨later, rfl, rfl⟩
  · cases mid with
    | nil => exact .inl ⟨[], by simp, hmid.symm⟩
    | cons c mid =>
      -- The first part holds the parenthesis that opens. If it ended before the one that closes,
      -- it would not be balanced.
      obtain ⟨rfl, hrest⟩ := List.cons.inj hmid
      rcases List.append_eq_append_iff.mp hrest with ⟨k, rfl, hk⟩ | ⟨k, rfl, hk⟩
      · cases k with
        | nil =>
          rw [List.append_nil] at hxs
          exact (hxs.not_open he.closed.le).elim
        | cons d k =>
          obtain ⟨rfl, rfl⟩ := List.cons.inj hk
          exact .inr ⟨k, rfl, rfl⟩
      · have hopened := he.opened mid.length
        rw [List.take_left] at hopened
        exact (hxs.not_open hopened).elim

/-- A group in a text of two parts joined by a character stands in one of them. -/
theorem Balanced.split_join {op : Char} (hop : op ≠ '(')
    (h : xs ++ op :: ys = before ++ '(' :: (e ++ ')' :: after)) :
    (∃ later, before = xs ++ op :: later ∧ ys = later ++ '(' :: (e ++ ')' :: after)) ∨
      ∃ later, xs = before ++ '(' :: (e ++ ')' :: later) ∧ after = later ++ op :: ys := by
  refine (hxs.split he h).imp_left ?_
  rintro ⟨later, rfl, hys⟩
  cases later with
  | nil => exact absurd (List.cons.inj hys).1 hop
  | cons c later =>
    obtain ⟨rfl, rfl⟩ := List.cons.inj hys
    exact ⟨later, rfl, rfl⟩

/-- A group in a text whose second part opens no parenthesis stands in the first. -/
theorem Balanced.split_left (hys : '(' ∉ ys)
    (h : xs ++ ys = before ++ '(' :: (e ++ ')' :: after)) :
    ∃ later, xs = before ++ '(' :: (e ++ ')' :: later) ∧ after = later ++ ys := by
  refine (hxs.split he h).resolve_left ?_
  rintro ⟨later, -, rfl⟩
  simp at hys

end

/-! ## Leaving parentheses out -/

/-- A text that ends in a name, so that a parenthesis behind it opens the arguments of a call. -/
def endsInName (before : List Char) : Bool := before.getLast?.any isNameChar

/-- Where a text does not end in a name, it does not from a later character on. -/
theorem endsInName_later {before later : List Char} {c : Char}
    (h : endsInName (before ++ c :: later) = false) : endsInName later = false := by
  cases hlast : later.getLast? with
  | none => rw [endsInName, hlast, Option.any_none]
  | some d =>
    rw [endsInName, List.getLast?_append, List.getLast?_cons, hlast] at h
    rw [endsInName, hlast]
    exact h

theorem endsInName_tail {later : List Char} {c : Char} (h : endsInName (c :: later) = false) :
    endsInName later = false := by
  rw [← List.nil_append (c :: later)] at h
  exact endsInName_later h

/-- A name ends in a name. -/
theorem endsInName_of_isName {w : List Char} (hw : isName w = true) : endsInName w = true := by
  cases hlast : w.getLast? with
  | none =>
    rw [List.getLast?_eq_none_iff.mp hlast] at hw
    cases hw
  | some c =>
    rw [endsInName, hlast]
    exact List.all_eq_true.mp (all_of_isName hw) c (List.mem_of_getLast? hlast)

/-- The phrase a text spells where a group in it may have become a selection. -/
def Phrase.opened : Phrase → Phrase
  | .term .atom t => .term .selection t
  | phrase => phrase

/-- A text spells a phrase also without the parentheses around `e`. -/
def Ungroups (e : List Char) (phrase : Phrase) (cs : List Char) : Prop :=
  ∀ before after, cs = before ++ '(' :: (e ++ ')' :: after) → endsInName before = false →
    Spells phrase.opened (before ++ e ++ after)

namespace Ungroups

variable {e cs ds w : List Char} {t : Term} {ts : List Term} (he : Balanced e)

/-- There is no group without parentheses. -/
theorem of_notMem {phrase : Phrase} (h : '(' ∉ cs) : Ungroups e phrase cs := by
  rintro before after rfl -
  simp at h

include he

/-- A group on one side of an operator or a comma. -/
theorem join {op : Char} (hop : op ≠ '(') {left right whole : Phrase}
    (hleft : left.opened = left) (hright : right.opened = right) (hwhole : whole.opened = whole)
    (hjoin : ∀ {cs ds}, Spells left cs → Spells right ds → Spells whole (cs ++ op :: ds))
    (hcs : Spells left cs) (hds : Spells right ds) (ihcs : Ungroups e left cs)
    (ihds : Ungroups e right ds) : Ungroups e whole (cs ++ op :: ds) := by
  intro before after htext hbefore
  rw [hwhole]
  rcases hcs.balanced.split_join he hop htext with ⟨later, rfl, hpart⟩ | ⟨later, hpart, rfl⟩
  · have hrest := hjoin hcs (hright ▸ ihds later after hpart (endsInName_later hbefore))
    simpa using hrest
  · have hrest := hjoin (hleft ▸ ihcs before later hpart hbefore) hds
    simpa using hrest

/-- A group in front of a component or an index. -/
theorem select {tail : List Char} {whole : Term} (htail : '(' ∉ tail)
    (hselect : ∀ {cs}, Spells (.term .selection t) cs →
      Spells (.term .selection whole) (cs ++ tail))
    (hcs : Spells (.term .selection t) cs) (ih : Ungroups e (.term .selection t) cs) :
    Ungroups e (.term .selection whole) (cs ++ tail) := by
  intro before after htext hbefore
  obtain ⟨later, hpart, rfl⟩ := hcs.balanced.split_left he htail htext
  have hrest := hselect (ih before later hpart hbefore)
  rwa [List.append_assoc] at hrest

/-- A group among the arguments of a call. -/
theorem call (hw : isName w = true) (hrow : Spells (.row ts) cs) (ih : Ungroups e (.row ts) cs) :
    Ungroups e (.term .atom (.call (String.ofList w) ts)) (w ++ '(' :: (cs ++ [')'])) := by
  intro before after htext hbefore
  rcases (Balanced.of_isName hw).split he htext with ⟨later, rfl, hlater⟩ | ⟨later, rfl, -⟩
  · cases later with
    | nil =>
      rw [List.append_nil, endsInName_of_isName hw] at hbefore
      cases hbefore
    | cons c later =>
      obtain ⟨rfl, hargs⟩ := List.cons.inj hlater
      obtain ⟨last, hpart, rfl⟩ := hrow.balanced.split_left he (by simp) hargs
      have hrest := (Spells.call hw (ih later last hpart (endsInName_later hbefore))).selection
      simpa [Phrase.opened] using hrest
  · exact absurd (by simp) (notMem_of_all (c := '(') (all_of_isName hw) rfl)

/-- A group is the whole text or stands in a larger one. -/
theorem group (hselect : ∀ {t}, Spells (.term .difference t) e → Spells (.term .selection t) e)
    (hcs : Spells (.term .difference t) cs) (ih : Ungroups e (.term .difference t) cs) :
    Ungroups e (.term .atom t) ('(' :: (cs ++ [')'])) := by
  intro before after htext hbefore
  cases before with
  | nil =>
    obtain ⟨rfl, rfl⟩ := hcs.balanced.close_inj he (List.cons.inj htext).2
    simpa [Phrase.opened] using hselect hcs
  | cons c before =>
    obtain ⟨rfl, hinner⟩ := List.cons.inj htext
    obtain ⟨last, hpart, rfl⟩ := hcs.balanced.split_left he (by simp) hinner
    have hout : endsInName before = false := endsInName_tail hbefore
    have hrest := (Spells.group (ih before last hpart hout)).selection
    simpa [Phrase.opened] using hrest

end Ungroups

/-- An expression that is a selection, whatever it is read as, may lose its parentheses. -/
theorem Spells.ungroups {e : List Char} (he : Balanced e)
    (hselect : ∀ {t}, Spells (.term .difference t) e → Spells (.term .selection t) e)
    {phrase : Phrase} {cs : List Char} (h : Spells phrase cs) : Ungroups e phrase cs := by
  -- Induction on how the text is put together; the group stands in one of its parts.
  induction h with
  | name hw => exact .of_notMem (notMem_of_all (all_of_isName hw) rfl)
  | literal hw hp =>
    have hwhole := notMem_of_all (c := '(') (Bool.and_eq_true_iff.mp hw).2 rfl
    have hpart := notMem_of_all (c := '(') (Bool.and_eq_true_iff.mp hp).2 rfl
    exact .of_notMem (by simp [hwhole, hpart])
  | call hf hrow ih => exact .call he hf hrow ih
  | group hinner ih => exact .group he hselect hinner ih
  | member hcs hw ih =>
    have hname := notMem_of_all (c := '(') (all_of_isName hw) rfl
    exact .select he (by simp [hname]) (fun h => h.member hw) hcs ih
  | item hcs hd ih =>
    have hdigits := notMem_of_all (c := '(') (Bool.and_eq_true_iff.mp hd).2 rfl
    exact .select he (by simp [hdigits]) (fun h => h.item hd) hcs ih
  | neg hcs ih =>
    intro before after htext hbefore
    cases before with
    | nil => cases htext
    | cons c before =>
      obtain ⟨rfl, hpart⟩ := List.cons.inj htext
      have hout : endsInName before = false := endsInName_tail hbefore
      exact (ih before after hpart hout).neg
  | mul ha hb iha ihb => exact .join he (by decide) rfl rfl rfl .mul ha hb iha ihb
  | div ha hb iha ihb => exact .join he (by decide) rfl rfl rfl .div ha hb iha ihb
  | sub ha hb iha ihb => exact .join he (by decide) rfl rfl rfl .sub ha hb iha ihb
  | selection _ ih => exact ih
  | sign _ ih => exact fun before after htext hbefore => (ih before after htext hbefore).sign
  | product _ ih => exact fun before after htext hbefore => (ih before after htext hbefore).product
  | difference _ ih =>
    exact fun before after htext hbefore => (ih before after htext hbefore).difference
  | last _ ih => exact fun before after htext hbefore => (ih before after htext hbefore).last
  | next h hs ih ihs => exact .join he (by decide) rfl rfl rfl .next h hs ih ihs

end FieldGraph.Shader

namespace FieldGraph.Snippet

open Shader

/-- An operand is an atom. -/
theorem isAtom_paren {e : String} {t : Term} (h : Spells (.term .difference t) e.toList) :
    isAtom (paren e) = true := by
  unfold paren
  split
  next hatom => exact hatom
  next =>
    have htext : ("(" ++ e ++ ")").toList = '(' :: (e.toList ++ [')']) := by simp
    have hscan : atomFrom 0 ('(' :: (e.toList ++ [')'])) = true := by
      rw [atomFrom_open (by decide), atomFrom_spells h (by decide)]
      rfl
    rw [isAtom, htext]
    exact hscan

/-- An atom in parentheses that are not those of a call may lose them. -/
theorem read?_of_group {e before after : String} {t whole : Term} (h : read? e = some t)
    (hatom : isAtom e = true) (hbefore : endsInName before.toList = false)
    (hwhole : read? (before ++ "(" ++ e ++ ")" ++ after) = some whole) :
    read? (before ++ e ++ after) = some whole := by
  have hspells := read?_eq_some_iff.mp h
  have hselect : ∀ {t}, Spells (.term .difference t) e.toList →
      Spells (.term .selection t) e.toList :=
    fun ht => selection_of_atomFrom ht (atomFrom_of_isAtom hatom)
  have htext : (before ++ "(" ++ e ++ ")" ++ after).toList =
      before.toList ++ '(' :: (e.toList ++ ')' :: after.toList) := by simp
  have hbare := (read?_eq_some_iff.mp hwhole).ungroups hspells.balanced hselect _ _ htext hbefore
  rw [read?_eq_some_iff, String.toList_append, String.toList_append]
  exact hbare

/-- For every text that is read as an expression: if it is an atom, no sign or operator is
outermost in it, and wherever it stands in parentheses that are not those of a call it may stand
without them; as an operand it is an atom in any case, making an operand of it again changes
nothing, and the operand is read as the same expression. -/
theorem atoms_stand_bare {e : String} {t : Term} (h : read? e = some t) :
    (isAtom e = true → ¬ Operated e.toList ∧
      ∀ (before after : String) (whole : Term), endsInName before.toList = false →
        read? (before ++ "(" ++ e ++ ")" ++ after) = some whole →
        read? (before ++ e ++ after) = some whole) ∧
    isAtom (paren e) = true ∧ paren (paren e) = paren e ∧ read? (paren e) = some t := by
  have hspells := read?_eq_some_iff.mp h
  have hparen := isAtom_paren hspells
  refine ⟨fun hatom => ⟨fun hop => ?_, ?_⟩, hparen, if_pos hparen, ?_⟩
  · have hscan := atomFrom_of_isAtom hatom
    rw [atomFrom_operated hop] at hscan
    cases hscan
  · intro before after whole hbefore hwhole
    exact read?_of_group h hatom hbefore hwhole
  · exact read_of_spells (spells_paren hspells).ofSelection

/-- A swizzled call with signs, operators and an index inside of its parentheses. -/
def swizzledCall : String := "opBend(-a*(b-c),uParams[3].x).xz"

/-- The swizzled call may be a factor and a subtrahend without parentheses. -/
theorem atoms_stand_bare_swizzledCall :
    ∃ t, read? swizzledCall = some t ∧ isAtom swizzledCall = true ∧
      ¬ Operated swizzledCall.toList ∧ paren (paren swizzledCall) = paren swizzledCall ∧
      read? ("1.0-" ++ "(" ++ swizzledCall ++ ")" ++ "*-d") =
        some (.sub (.literal 10 1) (.mul t (.neg (.name "d")))) ∧
      read? ("1.0-" ++ swizzledCall ++ "*-d") =
        some (.sub (.literal 10 1) (.mul t (.neg (.name "d")))) := by
  have hread : read? swizzledCall = some (.member (.call "opBend"
      [.mul (.neg (.name "a")) (.sub (.name "b") (.name "c")),
        .member (.item (.name "uParams") 3) "x"]) "xz") := rfl
  have hatom : isAtom swizzledCall = true := by decide +kernel
  obtain ⟨hbare, -, hagain, -⟩ := atoms_stand_bare hread
  obtain ⟨hop, hplace⟩ := hbare hatom
  refine ⟨_, hread, hatom, hop, hagain, rfl, hplace _ _ _ (by decide) rfl⟩

end FieldGraph.Snippet
