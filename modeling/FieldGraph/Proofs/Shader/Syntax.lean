import FieldGraph.Kind.Snippet
import Mathlib

/-!
# The syntax of generated expressions

Templates write expressions as text, and what a text means depends on how a shading language
groups it: selections and indices first, then signs, then products and quotients, then
differences, the last two from left to right. The reader below follows that precedence level by
level. The grammar `Spells` has the same levels and one rule per construct; it says how texts are
put together, and `read_of_spells` turns every text put together that way into what the reader
makes of it.
-/

namespace FieldGraph.Shader

/-- An expression as a shading language groups it. -/
inductive Term where
  | name (word : String)
  /-- The number `digits / 10 ^ places`. -/
  | literal (digits places : Nat)
  | call (function : String) (arguments : List Term)
  /-- Components of a vector or a field of a record. -/
  | member (whole : Term) (components : String)
  /-- An element of an array. -/
  | item (whole : Term) (index : Nat)
  | neg (t : Term)
  | mul (a b : Term)
  | div (a b : Term)
  | sub (a b : Term)

/-- How tightly the outermost construct of an expression binds, tightest first. -/
inductive Level where
  /-- A name, a literal, a call or anything in parentheses. -/
  | atom
  /-- Components and elements of an atom. -/
  | selection
  /-- A selection behind minus signs. -/
  | sign
  /-- Products and quotients of these. -/
  | product
  /-- Differences of products. -/
  | difference
  deriving DecidableEq, Repr

/-! ## Words and digits -/

/-- The characters a name may start with. -/
def isNameStart (c : Char) : Bool := c.isAlpha || c == '_'

/-- The characters of a name. -/
def isNameChar (c : Char) : Bool := c.isAlphanum || c == '_'

/-- A text that is a name. -/
def isName : List Char → Bool
  | [] => false
  | c :: rest => isNameStart c && rest.all isNameChar

/-- A text that is a row of digits. -/
def isDigits (cs : List Char) : Bool := !cs.isEmpty && cs.all Char.isDigit

/-- Read a name. -/
def readName (cs : List Char) : Option (String × List Char) :=
  let word := cs.takeWhile isNameChar
  if isName word then some (String.ofList word, cs.dropWhile isNameChar) else none

/-- Read a row of digits. -/
def readDigits (cs : List Char) : Option (List Char × List Char) :=
  let digits := cs.takeWhile Char.isDigit
  if isDigits digits then some (digits, cs.dropWhile Char.isDigit) else none

/-- Read digits, a point and more digits. -/
def readLiteral (cs : List Char) : Option (Term × List Char) :=
  match readDigits cs with
  | some (whole, '.' :: rest) =>
      match readDigits rest with
      | some (part, rest) =>
          some (.literal (Nat.ofDigitChars 10 (whole ++ part) 0) part.length, rest)
      | none => none
  | _ => none

/-! ## The reader -/

/-- Read an atom, given how the expression inside parentheses and the arguments of a call are
read. -/
def readAtom (inside : List Char → Option (Term × List Char))
    (row : List Char → Option (List Term × List Char)) (cs : List Char) :
    Option (Term × List Char) :=
  match readName cs, cs with
  | some (word, '(' :: rest), _ => (row rest).map fun (ts, rest) => (.call word ts, rest)
  | some (word, rest), _ => some (.name word, rest)
  | none, '(' :: rest =>
      match inside rest with
      | some (t, ')' :: rest) => some (t, rest)
      | _ => none
  | none, cs => readLiteral cs

mutual

/-- Read the longest expression of a level, as far as the fuel goes. -/
def readTerm : Nat → Level → List Char → Option (Term × List Char)
  | 0, _, _ => none
  | fuel + 1, .atom, cs => readAtom (readTerm fuel .difference) (readRow fuel) cs
  | fuel + 1, .selection, cs =>
      (readTerm fuel .atom cs).bind fun (t, rest) => readMore fuel .selection t rest
  | fuel + 1, .sign, cs =>
      match cs with
      | '-' :: rest => (readTerm fuel .sign rest).map fun (t, rest) => (.neg t, rest)
      | cs => readTerm fuel .selection cs
  | fuel + 1, .product, cs =>
      (readTerm fuel .sign cs).bind fun (t, rest) => readMore fuel .product t rest
  | fuel + 1, .difference, cs =>
      (readTerm fuel .product cs).bind fun (t, rest) => readMore fuel .difference t rest

/-- Continue an expression of a level to the right. -/
def readMore : Nat → Level → Term → List Char → Option (Term × List Char)
  | 0, _, _, _ => none
  | fuel + 1, .selection, t, '.' :: rest =>
      (readName rest).bind fun (word, rest) => readMore fuel .selection (.member t word) rest
  | fuel + 1, .selection, t, '[' :: rest =>
      match readDigits rest with
      | some (digits, ']' :: rest) =>
          readMore fuel .selection (.item t (Nat.ofDigitChars 10 digits 0)) rest
      | _ => none
  | fuel + 1, .product, t, '*' :: rest =>
      (readTerm fuel .sign rest).bind fun (b, rest) => readMore fuel .product (.mul t b) rest
  | fuel + 1, .product, t, '/' :: rest =>
      (readTerm fuel .sign rest).bind fun (b, rest) => readMore fuel .product (.div t b) rest
  | fuel + 1, .difference, t, '-' :: rest =>
      (readTerm fuel .product rest).bind fun (b, rest) => readMore fuel .difference (.sub t b) rest
  | _ + 1, _, t, cs => some (t, cs)

/-- Read expressions between commas up to a closing parenthesis. -/
def readRow : Nat → List Char → Option (List Term × List Char)
  | 0, _ => none
  | fuel + 1, cs =>
      match readTerm fuel .difference cs with
      | some (t, ',' :: rest) => (readRow fuel rest).map fun (ts, rest) => (t :: ts, rest)
      | some (t, ')' :: rest) => some ([t], rest)
      | _ => none

end

/-- Read a whole text as an expression. No more than eight steps are taken for one character. -/
def read? (text : String) : Option Term :=
  match readTerm (8 * text.toList.length + 8) .difference text.toList with
  | some (t, []) => some t
  | _ => none

/-! ## The grammar -/

/-- What a text may spell: an expression of a level, or arguments of a call. -/
inductive Phrase where
  | term (level : Level) (t : Term)
  | row (ts : List Term)

/-- How texts are put together. -/
inductive Spells : Phrase → List Char → Prop where
  | name {w : List Char} (h : isName w = true) :
      Spells (.term .atom (.name (String.ofList w))) w
  | literal {whole part : List Char} (hw : isDigits whole = true) (hp : isDigits part = true) :
      Spells (.term .atom (.literal (Nat.ofDigitChars 10 (whole ++ part) 0) part.length))
        (whole ++ '.' :: part)
  | call {f cs : List Char} {ts : List Term} (hf : isName f = true) (h : Spells (.row ts) cs) :
      Spells (.term .atom (.call (String.ofList f) ts)) (f ++ '(' :: (cs ++ [')']))
  | group {cs : List Char} {t : Term} (h : Spells (.term .difference t) cs) :
      Spells (.term .atom t) ('(' :: (cs ++ [')']))
  | member {cs w : List Char} {t : Term} (h : Spells (.term .selection t) cs)
      (hw : isName w = true) :
      Spells (.term .selection (.member t (String.ofList w))) (cs ++ '.' :: w)
  | item {cs digits : List Char} {t : Term} (h : Spells (.term .selection t) cs)
      (hd : isDigits digits = true) :
      Spells (.term .selection (.item t (Nat.ofDigitChars 10 digits 0)))
        (cs ++ '[' :: (digits ++ [']']))
  | neg {cs : List Char} {t : Term} (h : Spells (.term .sign t) cs) :
      Spells (.term .sign (.neg t)) ('-' :: cs)
  | mul {cs ds : List Char} {a b : Term} (ha : Spells (.term .product a) cs)
      (hb : Spells (.term .sign b) ds) :
      Spells (.term .product (.mul a b)) (cs ++ '*' :: ds)
  | div {cs ds : List Char} {a b : Term} (ha : Spells (.term .product a) cs)
      (hb : Spells (.term .sign b) ds) :
      Spells (.term .product (.div a b)) (cs ++ '/' :: ds)
  | sub {cs ds : List Char} {a b : Term} (ha : Spells (.term .difference a) cs)
      (hb : Spells (.term .product b) ds) :
      Spells (.term .difference (.sub a b)) (cs ++ '-' :: ds)
  | selection {cs : List Char} {t : Term} (h : Spells (.term .atom t) cs) :
      Spells (.term .selection t) cs
  | sign {cs : List Char} {t : Term} (h : Spells (.term .selection t) cs) :
      Spells (.term .sign t) cs
  | product {cs : List Char} {t : Term} (h : Spells (.term .sign t) cs) :
      Spells (.term .product t) cs
  | difference {cs : List Char} {t : Term} (h : Spells (.term .product t) cs) :
      Spells (.term .difference t) cs
  | last {cs : List Char} {t : Term} (h : Spells (.term .difference t) cs) :
      Spells (.row [t]) cs
  | next {cs ds : List Char} {t : Term} {ts : List Term} (h : Spells (.term .difference t) cs)
      (hs : Spells (.row ts) ds) : Spells (.row (t :: ts)) (cs ++ ',' :: ds)

namespace Spells

variable {cs : List Char} {t : Term}

/-- An atom may stand at every level. -/
theorem ofAtom (h : Spells (.term .atom t) cs) : Spells (.term .difference t) cs :=
  h.selection.sign.product.difference

/-- A selection may stand at every looser level. -/
theorem ofSelection (h : Spells (.term .selection t) cs) : Spells (.term .difference t) cs :=
  h.sign.product.difference

end Spells

/-! ## Reading what is spelled -/

/-- The first character of a text does not satisfy a test. -/
def Ends (p : Char → Bool) (rest : List Char) : Prop := ∀ c, rest.head? = some c → p c = false

/-- The longest row of characters that satisfy a test ends where the test fails. -/
theorem takeWhile_of_ends {p : Char → Bool} {w rest : List Char} (hw : w.all p = true)
    (hrest : Ends p rest) :
    (w ++ rest).takeWhile p = w ∧ (w ++ rest).dropWhile p = rest := by
  have hall : ∀ c ∈ w, p c = true := List.all_eq_true.mp hw
  rw [List.takeWhile_append_of_pos hall, List.dropWhile_append_of_pos hall]
  cases rest with
  | nil => simp
  | cons c rest =>
    have hc : p c = false := hrest c rfl
    simp [hc]

/-- A name has the characters of a name. -/
theorem all_of_isName {w : List Char} (h : isName w = true) : w.all isNameChar = true := by
  cases w with
  | nil => rfl
  | cons c rest =>
    simp only [isName, isNameStart, Bool.and_eq_true] at h
    rw [List.all_cons, Bool.and_eq_true]
    refine ⟨?_, h.2⟩
    rw [isNameChar, Char.isAlphanum, Bool.or_right_comm, h.1, Bool.true_or]

/-- A name is read up to where its characters end. -/
theorem readName_append {w rest : List Char} (h : isName w = true) (hrest : Ends isNameChar rest) :
    readName (w ++ rest) = some (String.ofList w, rest) := by
  obtain ⟨htake, hdrop⟩ := takeWhile_of_ends (all_of_isName h) hrest
  rw [readName, htake, hdrop, if_pos h]

/-- A digit does not start a name. -/
theorem readName_digit {c : Char} (hc : c.isDigit = true) (rest : List Char) :
    readName (c :: rest) = none := by
  have hchar : isNameChar c = true := by simp [isNameChar, Char.isAlphanum, hc]
  have hstart : isNameStart c = false := by
    simp only [Char.isDigit, Bool.and_eq_true, decide_eq_true_eq, UInt32.le_iff_toNat_le,
      ge_iff_le] at hc
    have h9 : '9'.val.toNat = 57 := rfl
    have hA : 'A'.val.toNat = 65 := rfl
    have ha : 'a'.val.toNat = 97 := rfl
    have hne : c ≠ '_' := by
      rintro rfl
      revert hc
      decide
    simp only [isNameStart, Char.isAlpha, Char.isUpper, Char.isLower, UInt32.le_iff_toNat_le,
      ge_iff_le, beq_false_of_ne hne, Bool.or_false, Bool.or_eq_false_iff, Bool.and_eq_false_iff,
      decide_eq_false_iff_not]
    omega
  rw [readName, List.takeWhile_cons_of_pos hchar, isName, hstart]
  rfl

/-- Digits are read up to where they end. -/
theorem readDigits_append {ds rest : List Char} (h : isDigits ds = true)
    (hrest : Ends Char.isDigit rest) : readDigits (ds ++ rest) = some (ds, rest) := by
  obtain ⟨htake, hdrop⟩ := takeWhile_of_ends (Bool.and_eq_true_iff.mp h).2 hrest
  rw [readDigits, htake, hdrop, if_pos h]

/-- A row of digits is not empty and starts with a digit. -/
theorem exists_cons_of_isDigits {ds : List Char} (h : isDigits ds = true) :
    ∃ c rest, ds = c :: rest ∧ c.isDigit = true := by
  cases ds with
  | nil => simp [isDigits] at h
  | cons c rest => exact ⟨c, rest, rfl, by simp [isDigits] at h; exact h.1⟩

/-- The characters by which an expression of a level could go on. -/
def Level.takes : Level → Char → Bool
  | .atom, c => isNameChar c || c == '('
  | .selection, c | .sign, c => isNameChar c || c == '(' || c == '.' || c == '['
  | .product, c => isNameChar c || c == '(' || c == '.' || c == '[' || c == '*' || c == '/'
  | .difference, c =>
      isNameChar c || c == '(' || c == '.' || c == '[' || c == '*' || c == '/' || c == '-'

/-- The level whose expressions have been read in full when one of a level is continued. -/
def Level.inner : Level → Level
  | .atom | .selection => .atom
  | .sign | .product => .selection
  | .difference => .product

/-- How many steps are taken before the first and after the last character is read. -/
def Level.rank : Level → Nat
  | .atom => 1
  | .selection => 2
  | .sign => 4
  | .product => 5
  | .difference => 7

/-- What is left to do once the text of an expression has been read: levels that go on to the
right look for more. -/
def finish (fuel : Nat) (level : Level) (t : Term) (rest : List Char) :
    Option (Term × List Char) :=
  match level with
  | .atom | .sign => some (t, rest)
  | level => readMore fuel level t rest

/-- Nothing more is read where an expression cannot go on. -/
theorem readMore_of_ends {fuel : Nat} {level : Level} {t : Term} {rest : List Char}
    (hfuel : 0 < fuel) (h : Ends level.takes rest) :
    readMore fuel level t rest = some (t, rest) := by
  cases fuel with
  | zero => cases hfuel
  | succ fuel =>
    rw [readMore.eq_def]
    split
    · contradiction
    all_goals first | rfl | exact absurd (h _ rfl) (by simp [Level.takes])

/-- An expression that has been read in full is finished. -/
theorem finish_of_ends {fuel : Nat} {level : Level} {t : Term} {rest : List Char}
    (hfuel : 0 < fuel) (h : Ends level.takes rest) : finish fuel level t rest = some (t, rest) := by
  cases level with
  | atom | sign => rfl
  | selection | product | difference => exact readMore_of_ends hfuel h

/-- Where an expression of a level cannot go on, none of a tighter level can. -/
theorem Ends.inner {level : Level} {rest : List Char} (h : Ends level.takes rest) :
    Ends level.inner.takes rest := by
  intro c hc
  have hlevel := h c hc
  cases level <;> simp only [Level.takes, Level.inner, Bool.or_eq_false_iff] at * <;> simp [hlevel]

/-- After an atom stands no character of a name. -/
theorem Ends.name {rest : List Char} (h : Ends Level.atom.takes rest) : Ends isNameChar rest := by
  intro c hc
  have := h c hc
  simp only [Level.takes, Bool.or_eq_false_iff] at this
  exact this.1

/-- After an atom stands no digit. -/
theorem Ends.digit {rest : List Char} (h : Ends Level.atom.takes rest) :
    Ends Char.isDigit rest := by
  intro c hc
  have hname := h.name c hc
  simp only [isNameChar, Char.isAlphanum, Bool.or_eq_false_iff] at hname
  exact hname.1.2

/-- A character that fails a test ends what satisfies it. -/
theorem Ends.cons {p : Char → Bool} {c : Char} (h : p c = false) (rest : List Char) :
    Ends p (c :: rest) := by
  intro d hd
  rw [List.head?_cons, Option.some.injEq] at hd
  exact hd ▸ h

/-- The reader reads a text, whatever follows it, as what the text spells. For expressions the
fuel is enough for the text and what is not used up is left for what follows. -/
def Reads (cs : List Char) : Phrase → Prop
  | .term level t => ∀ (fuel : Nat) (rest : List Char), 8 * cs.length + level.rank ≤ fuel →
      Ends level.inner.takes rest → ∃ left, fuel ≤ left + (8 * cs.length + level.rank) ∧
        readTerm fuel level (cs ++ rest) = finish left level t rest
  | .row ts => ∀ (fuel : Nat) (rest : List Char), 8 * cs.length + 9 ≤ fuel →
      readRow fuel (cs ++ ')' :: rest) = some (ts, rest)

namespace Reads

variable {cs ds w : List Char} {t a b : Term} {ts : List Term}

/-- A text is read in full before a character that no expression of its level goes on with. -/
theorem stop {level : Level} (h : Reads cs (.term level t)) {fuel : Nat}
    (hfuel : 8 * cs.length + level.rank < fuel) {rest : List Char}
    (hrest : Ends level.takes rest) : readTerm fuel level (cs ++ rest) = some (t, rest) := by
  obtain ⟨left, hleft, hread⟩ := h fuel rest (Nat.le_of_lt hfuel) hrest.inner
  rw [hread, finish_of_ends (by omega) hrest]

theorem name (h : isName w = true) : Reads w (.term .atom (.name (String.ofList w))) := by
  intro fuel rest hfuel hrest
  cases fuel with
  | zero => simp [Level.rank] at hfuel
  | succ fuel =>
    refine ⟨fuel + 1, by omega, ?_⟩
    have hopen : ∀ later, '(' :: later ≠ rest := by
      rintro later rfl
      exact absurd (hrest _ rfl) (by simp [Level.takes, Level.inner])
    have hname := readName_append h (Ends.name hrest)
    rw [readTerm]
    unfold readAtom
    split <;> simp_all [finish]

theorem call (hf : isName w = true) (h : Reads cs (.row ts)) :
    Reads (w ++ '(' :: (cs ++ [')'])) (.term .atom (.call (String.ofList w) ts)) := by
  intro fuel rest hfuel hrest
  simp only [List.length_append, List.length_cons, List.length_nil, Level.rank] at hfuel
  cases fuel with
  | zero => omega
  | succ fuel =>
    refine ⟨fuel + 1, by omega, ?_⟩
    have htext : w ++ '(' :: (cs ++ [')']) ++ rest = w ++ '(' :: (cs ++ ')' :: rest) := by simp
    have hname : readName (w ++ '(' :: (cs ++ ')' :: rest)) =
        some (String.ofList w, '(' :: (cs ++ ')' :: rest)) := readName_append hf (.cons rfl _)
    rw [htext, readTerm]
    simp only [readAtom, hname, h fuel rest (by omega), Option.map_some, finish]

theorem group (h : Reads cs (.term .difference t)) :
    Reads ('(' :: (cs ++ [')'])) (.term .atom t) := by
  intro fuel rest hfuel hrest
  simp only [List.length_append, List.length_cons, List.length_nil, Level.rank] at hfuel
  cases fuel with
  | zero => omega
  | succ fuel =>
    refine ⟨fuel + 1, by omega, ?_⟩
    have hinner : readTerm fuel .difference (cs ++ ')' :: rest) = some (t, ')' :: rest) :=
      h.stop (by simp [Level.rank]; omega) (.cons rfl _)
    have htext : '(' :: (cs ++ [')']) ++ rest = '(' :: (cs ++ ')' :: rest) := by simp
    have hname : readName ('(' :: (cs ++ ')' :: rest)) = none := rfl
    rw [htext, readTerm]
    simp only [readAtom, hname, hinner, finish]

theorem literal {whole part : List Char} (hw : isDigits whole = true)
    (hp : isDigits part = true) :
    Reads (whole ++ '.' :: part)
      (.term .atom (.literal (Nat.ofDigitChars 10 (whole ++ part) 0) part.length)) := by
  intro fuel rest hfuel hrest
  cases fuel with
  | zero => simp [Level.rank] at hfuel
  | succ fuel =>
    refine ⟨fuel + 1, by omega, ?_⟩
    have htext : whole ++ '.' :: part ++ rest = whole ++ '.' :: (part ++ rest) := by simp
    have hread : readLiteral (whole ++ '.' :: (part ++ rest)) =
        some (.literal (Nat.ofDigitChars 10 (whole ++ part) 0) part.length, rest) := by
      rw [readLiteral, readDigits_append hw (.cons rfl _)]
      simp only [readDigits_append hp (Ends.digit hrest)]
    obtain ⟨c, later, rfl, hc⟩ := exists_cons_of_isDigits hw
    have hname : readName (c :: later ++ '.' :: (part ++ rest)) = none := readName_digit hc _
    have hopen : c ≠ '(' := by
      rintro rfl
      simp at hc
    rw [htext, readTerm]
    unfold readAtom
    split <;> simp_all [finish]

theorem member (h : Reads cs (.term .selection t)) (hw : isName w = true) :
    Reads (cs ++ '.' :: w) (.term .selection (.member t (String.ofList w))) := by
  intro fuel rest hfuel hrest
  simp only [List.length_append, List.length_cons] at hfuel ⊢
  have htext : cs ++ '.' :: w ++ rest = cs ++ '.' :: (w ++ rest) := by simp
  obtain ⟨left, hleft, hread⟩ := h fuel ('.' :: (w ++ rest)) (by omega) (.cons rfl _)
  cases left with
  | zero => omega
  | succ left =>
    refine ⟨left, by omega, ?_⟩
    rw [htext, hread]
    simp only [finish, readMore, readName_append hw (Ends.name hrest), Option.bind_some]

theorem item (h : Reads cs (.term .selection t)) (hd : isDigits ds = true) :
    Reads (cs ++ '[' :: (ds ++ [']']))
      (.term .selection (.item t (Nat.ofDigitChars 10 ds 0))) := by
  intro fuel rest hfuel hrest
  simp only [List.length_append, List.length_cons, List.length_nil] at hfuel ⊢
  have htext : cs ++ '[' :: (ds ++ [']']) ++ rest = cs ++ '[' :: (ds ++ ']' :: rest) := by simp
  obtain ⟨left, hleft, hread⟩ := h fuel ('[' :: (ds ++ ']' :: rest)) (by omega) (.cons rfl _)
  cases left with
  | zero => omega
  | succ left =>
    refine ⟨left, by omega, ?_⟩
    have hdigits : readDigits (ds ++ ']' :: rest) = some (ds, ']' :: rest) :=
      readDigits_append hd (.cons rfl _)
    rw [htext, hread]
    simp only [finish, readMore, hdigits]

theorem neg (h : Reads cs (.term .sign t)) : Reads ('-' :: cs) (.term .sign (.neg t)) := by
  intro fuel rest hfuel hrest
  simp only [List.length_cons, Level.rank] at hfuel ⊢
  cases fuel with
  | zero => omega
  | succ fuel =>
    refine ⟨fuel, by omega, ?_⟩
    obtain ⟨left, -, hread⟩ := h fuel rest (by simp only [Level.rank]; omega) hrest
    rw [List.cons_append, readTerm, hread]
    rfl

/-- A product goes on with a factor or a divisor. -/
theorem product {op : Char} {join : Term → Term → Term} (ha : Reads cs (.term .product a))
    (hb : Reads ds (.term .sign b)) (hop : Level.selection.takes op = false)
    (hmore : ∀ fuel rest, readMore (fuel + 1) .product a (op :: rest) =
      (readTerm fuel .sign rest).bind fun (b, rest) => readMore fuel .product (join a b) rest) :
    Reads (cs ++ op :: ds) (.term .product (join a b)) := by
  intro fuel rest hfuel hrest
  simp only [List.length_append, List.length_cons, Level.rank] at hfuel ⊢
  have htext : cs ++ op :: ds ++ rest = cs ++ op :: (ds ++ rest) := by simp
  obtain ⟨left, hleft, hread⟩ :=
    ha fuel (op :: (ds ++ rest)) (by simp only [Level.rank]; omega) (.cons hop _)
  simp only [Level.rank] at hleft
  cases left with
  | zero => omega
  | succ left =>
    refine ⟨left, by omega, ?_⟩
    obtain ⟨_, -, hfactor⟩ := hb left rest (by simp only [Level.rank]; omega) hrest
    rw [htext, hread]
    simp only [finish, hmore, hfactor, Option.bind_some]

theorem sub (ha : Reads cs (.term .difference a)) (hb : Reads ds (.term .product b)) :
    Reads (cs ++ '-' :: ds) (.term .difference (.sub a b)) := by
  intro fuel rest hfuel hrest
  simp only [List.length_append, List.length_cons, Level.rank] at hfuel ⊢
  have htext : cs ++ '-' :: ds ++ rest = cs ++ '-' :: (ds ++ rest) := by simp
  obtain ⟨left, hleft, hread⟩ :=
    ha fuel ('-' :: (ds ++ rest)) (by simp only [Level.rank]; omega) (.cons rfl _)
  simp only [Level.rank] at hleft
  cases left with
  | zero => omega
  | succ left =>
    refine ⟨left, by omega, ?_⟩
    have hproduct : readTerm left .product (ds ++ rest) = some (b, rest) :=
      hb.stop (by simp only [Level.rank]; omega) hrest
    rw [htext, hread]
    simp only [finish, readMore, hproduct, Option.bind_some]

theorem selection (h : Reads cs (.term .atom t)) : Reads cs (.term .selection t) := by
  intro fuel rest hfuel hrest
  simp only [Level.rank] at hfuel ⊢
  cases fuel with
  | zero => omega
  | succ fuel =>
    refine ⟨fuel, by omega, ?_⟩
    obtain ⟨_, -, hread⟩ := h fuel rest (by simp only [Level.rank]; omega) hrest
    rw [readTerm, hread]
    rfl

theorem sign (h : Reads cs (.term .selection t)) (hhead : cs.head? ≠ some '-') (hne : cs ≠ []) :
    Reads cs (.term .sign t) := by
  intro fuel rest hfuel hrest
  simp only [Level.rank] at hfuel ⊢
  cases fuel with
  | zero => omega
  | succ fuel =>
    refine ⟨fuel, by omega, ?_⟩
    have hread : readTerm fuel .selection (cs ++ rest) = some (t, rest) :=
      h.stop (by simp only [Level.rank]; omega) hrest
    obtain ⟨c, cs, rfl⟩ := List.exists_cons_of_ne_nil hne
    have hc : c ≠ '-' := by simpa using hhead
    rw [readTerm.eq_def]
    split <;> simp_all [finish]

theorem loosen (h : Reads cs (.term .sign t)) : Reads cs (.term .product t) := by
  intro fuel rest hfuel hrest
  simp only [Level.rank] at hfuel ⊢
  cases fuel with
  | zero => omega
  | succ fuel =>
    refine ⟨fuel, by omega, ?_⟩
    obtain ⟨_, -, hread⟩ := h fuel rest (by simp only [Level.rank]; omega) hrest
    rw [readTerm, hread]
    rfl

theorem difference (h : Reads cs (.term .product t)) : Reads cs (.term .difference t) := by
  intro fuel rest hfuel hrest
  simp only [Level.rank] at hfuel ⊢
  cases fuel with
  | zero => omega
  | succ fuel =>
    refine ⟨fuel, by omega, ?_⟩
    have hread : readTerm fuel .product (cs ++ rest) = some (t, rest) :=
      h.stop (by simp only [Level.rank]; omega) hrest
    rw [readTerm, hread]
    rfl

theorem last (h : Reads cs (.term .difference t)) : Reads cs (.row [t]) := by
  intro fuel rest hfuel
  cases fuel with
  | zero => omega
  | succ fuel =>
    have hread : readTerm fuel .difference (cs ++ ')' :: rest) = some (t, ')' :: rest) :=
      h.stop (by simp only [Level.rank]; omega) (.cons rfl _)
    simp only [readRow, hread]

theorem next (h : Reads cs (.term .difference t)) (hs : Reads ds (.row ts)) :
    Reads (cs ++ ',' :: ds) (.row (t :: ts)) := by
  intro fuel rest hfuel
  simp only [List.length_append, List.length_cons] at hfuel
  cases fuel with
  | zero => omega
  | succ fuel =>
    have htext : cs ++ ',' :: ds ++ ')' :: rest = cs ++ ',' :: (ds ++ ')' :: rest) := by simp
    have hread : readTerm fuel .difference (cs ++ ',' :: (ds ++ ')' :: rest)) =
        some (t, ',' :: (ds ++ ')' :: rest)) :=
      h.stop (by simp only [Level.rank]; omega) (.cons rfl _)
    rw [htext]
    simp only [readRow, hread, hs fuel rest (by omega), Option.map_some]

end Reads

/-- An atom starts with a character other than a minus. -/
theorem Spells.atom_cons {cs : List Char} {t : Term} (h : Spells (.term .atom t) cs) :
    ∃ c rest, cs = c :: rest ∧ c ≠ '-' := by
  have hname : ∀ {w : List Char}, isName w = true → ∃ c rest, w = c :: rest ∧ c ≠ '-' := by
    intro w hw
    cases w with
    | nil => cases hw
    | cons c rest =>
      refine ⟨c, rest, rfl, ?_⟩
      rintro rfl
      cases hw
  cases h with
  | name hw => exact hname hw
  | literal hw hp =>
    obtain ⟨c, rest, rfl, hc⟩ := exists_cons_of_isDigits hw
    refine ⟨c, _, rfl, ?_⟩
    rintro rfl
    cases hc
  | call hf hrow =>
    obtain ⟨c, rest, rfl, hc⟩ := hname hf
    exact ⟨c, _, rfl, hc⟩
  | group hinner => exact ⟨'(', _, rfl, by decide⟩

/-- A selection starts with a character other than a minus. -/
theorem Spells.selection_cons {cs : List Char} {t : Term} (h : Spells (.term .selection t) cs) :
    ∃ c rest, cs = c :: rest ∧ c ≠ '-' := by
  generalize hphrase : Phrase.term .selection t = phrase at h
  induction h generalizing t with
  | member _ _ ih =>
    obtain ⟨c, rest, rfl, hc⟩ := ih rfl
    exact ⟨c, _, rfl, hc⟩
  | item _ _ ih =>
    obtain ⟨c, rest, rfl, hc⟩ := ih rfl
    exact ⟨c, _, rfl, hc⟩
  | selection h => exact h.atom_cons
  | _ => cases hphrase

/-- The reader reads what is spelled. -/
theorem reads_of_spells {phrase : Phrase} {cs : List Char} (h : Spells phrase cs) :
    Reads cs phrase := by
  induction h with
  | name hw => exact .name hw
  | literal hw hp => exact .literal hw hp
  | call hf _ ih => exact .call hf ih
  | group _ ih => exact .group ih
  | member _ hw ih => exact .member ih hw
  | item _ hd ih => exact .item ih hd
  | neg _ ih => exact .neg ih
  | mul _ _ iha ihb => exact .product iha ihb rfl fun _ _ => rfl
  | div _ _ iha ihb => exact .product iha ihb rfl fun _ _ => rfl
  | sub _ _ iha ihb => exact .sub iha ihb
  | selection _ ih => exact .selection ih
  | sign h ih =>
    obtain ⟨c, rest, rfl, hc⟩ := h.selection_cons
    exact .sign ih (by simpa using hc) (by simp)
  | product _ ih => exact .loosen ih
  | difference _ ih => exact .difference ih
  | last _ ih => exact .last ih
  | next _ _ ih ihs => exact .next ih ihs

/-- A text is read as the expression it spells. -/
theorem read_of_spells {text : String} {t : Term}
    (h : Spells (.term .difference t) text.toList) : read? text = some t := by
  have hread : readTerm (8 * text.toList.length + 8) .difference (text.toList ++ []) =
      some (t, []) :=
    (reads_of_spells h).stop (by simp only [Level.rank]; omega) (by simp [Ends])
  rw [List.append_nil] at hread
  rw [read?, hread]

end FieldGraph.Shader
