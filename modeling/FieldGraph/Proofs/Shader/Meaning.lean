import FieldGraph.Proofs.Shader.Operand
import FieldGraph.Shader.Basic
import Mathlib.Data.List.Forall2

/-!
# What generated code means

The operators, library functions and globals of a shading language are left open: an
interpretation gives them any meaning in any domain of values. Functions of the point are
declared one after the other, each body read and evaluated with the functions declared before it.
A text denotes a function of the point if the expression it spells has that value, not only now
but after all later declarations too, so that what is known of a text stays known while a shader
grows.
-/

namespace FieldGraph.Shader

universe u

/-- A meaning of everything that generated code does not declare itself. -/
structure Interpretation (V : Type u) where
  /-- The number `digits / 10 ^ places`. -/
  literal : (digits places : Nat) → V
  /-- What a name other than the point stands for. -/
  global : String → V
  member : V → String → V
  item : V → Nat → V
  neg : V → V
  mul : V → V → V
  div : V → V → V
  sub : V → V → V
  /-- Calls of functions of the language and its libraries. -/
  apply : String → List V → V
  deriving Inhabited

/-- Declared functions of the point, newest first. -/
abbrev Functions (V : Type u) := List (String × (V → V))

/-- The name of the point in every body. -/
def pointName : String := "p"

variable {V : Type u}

mutual

/-- The value of an expression at a point. A declared function takes precedence over one of the
language. -/
def Term.eval (I : Interpretation V) (F : Functions V) (p : V) : Term → V
  | .name word => if word = pointName then p else I.global word
  | .literal digits places => I.literal digits places
  | .call f ts =>
      match F.lookup f, evalRow I F p ts with
      | some h, [a] => h a
      | _, row => I.apply f row
  | .member t components => I.member (t.eval I F p) components
  | .item t index => I.item (t.eval I F p) index
  | .neg t => I.neg (t.eval I F p)
  | .mul a b => I.mul (a.eval I F p) (b.eval I F p)
  | .div a b => I.div (a.eval I F p) (b.eval I F p)
  | .sub a b => I.sub (a.eval I F p) (b.eval I F p)

/-- The values of arguments. -/
def evalRow (I : Interpretation V) (F : Functions V) (p : V) : List Term → List V
  | [] => []
  | t :: ts => t.eval I F p :: evalRow I F p ts

end

/-- Declare a function by its name and body. -/
def declare (I : Interpretation V) (F : Functions V) (declaration : String × String) :
    Option (Functions V) :=
  (read? declaration.2).map fun t => (declaration.1, fun p => t.eval I F p) :: F

/-- Declare functions one after the other; each sees those before it. -/
def link (I : Interpretation V) (declarations : List (String × String)) : Option (Functions V) :=
  declarations.foldlM (declare I) []

/-- One more declaration comes after all others. -/
theorem link_concat (I : Interpretation V) (ds : List (String × String)) (d : String × String) :
    link I (ds ++ [d]) = (link I ds).bind fun F => declare I F d := by
  simp only [link, List.foldlM_append, List.foldlM_cons, List.foldlM_nil, bind_pure]
  rfl

/-! ## Later declarations -/

/-- The names that declared functions have. Functions of the language have none of them. -/
def isNodeName (name : String) : Bool := name == entryPoint || name.toList.contains '_'

/-- One row of functions keeps what another declares, and declares no name of the language. -/
structure Later (F F' : Functions V) : Prop where
  keeps : ∀ name h, F.lookup name = some h → F'.lookup name = some h
  named : ∀ name, isNodeName name = false → F'.lookup name = none

/-- What comes later than something later comes later. -/
theorem Later.trans {F F' F'' : Functions V} (h : Later F F') (h' : Later F' F'') : Later F F'' :=
  ⟨fun name f hf => h'.keeps name f (h.keeps name f hf), h'.named⟩

/-- A new function with a name of its kind may be declared. -/
theorem Later.declare {F : Functions V} (hF : Later F F) {name : String}
    (hname : isNodeName name = true) (hnew : F.lookup name = none) (f : V → V) :
    Later F ((name, f) :: F) := by
  refine ⟨?_, ?_⟩
  · intro other h hother
    have hne : (other == name) = false := by
      rw [beq_eq_false_iff_ne]
      rintro rfl
      rw [hnew] at hother
      cases hother
    rw [List.lookup_cons, hne]
    exact hother
  · intro other hother
    have hne : (other == name) = false := by
      rw [beq_eq_false_iff_ne]
      rintro rfl
      rw [hname] at hother
      cases hother
    rw [List.lookup_cons, hne]
    exact hF.named other hother

/-! ## Texts -/

/-- A text is an expression whose value at every point is given by a function, now and after
later declarations. -/
def Denotes (I : Interpretation V) (F : Functions V) (text : String) (f : V → V) : Prop :=
  ∃ t, Spells (.term .difference t) text.toList ∧
    ∀ F', Later F F' → ∀ v, t.eval I F' v = f v

/-- A text with a place for the point stands for a function of the point there. -/
def Means (I : Interpretation V) (F : Functions V) (text : String → String) (h : V → V) : Prop :=
  ∀ F', Later F F' → ∀ q f, Denotes I F' q f → Denotes I F' (text q) fun v => h (f v)

section

variable {I : Interpretation V} {F F' : Functions V} {a b : String} {f g : V → V}

/-- What a text denotes it denotes after later declarations. -/
theorem Denotes.later (h : Denotes I F a f) (hF : Later F F') : Denotes I F' a f := by
  obtain ⟨t, hspell, heval⟩ := h
  exact ⟨t, hspell, fun F'' hF' => heval F'' (hF.trans hF')⟩

/-- What a text with a place for the point stands for it stands for after later declarations. -/
theorem Means.later {text : String → String} {h : V → V} (hm : Means I F text h)
    (hF : Later F F') : Means I F' text h :=
  fun F'' hF' => hm F'' (hF.trans hF')

/-- The name of the point denotes the point. -/
theorem denotes_point : Denotes I F pointName id :=
  ⟨.name pointName, (Spells.name (w := ['p']) rfl).ofAtom, fun _ _ v => by simp [Term.eval]⟩

/-- A difference; only the right operand needs to be one. -/
theorem Denotes.sub (ha : Denotes I F a f) (hb : Denotes I F b g) :
    Denotes I F (a ++ "-" ++ Snippet.paren b) fun v => I.sub (f v) (g v) := by
  obtain ⟨s, hs, hse⟩ := ha
  obtain ⟨t, ht, hte⟩ := hb
  refine ⟨.sub s t, ?_, fun F' hF v => by rw [Term.eval, hse F' hF, hte F' hF]⟩
  rw [String.toList_append, String.toList_append, List.append_assoc]
  exact .sub hs (Snippet.spells_paren ht).sign.product

/-- A product of operands. -/
theorem Denotes.mul (ha : Denotes I F a f) (hb : Denotes I F b g) :
    Denotes I F (Snippet.paren a ++ "*" ++ Snippet.paren b) fun v => I.mul (f v) (g v) := by
  obtain ⟨s, hs, hse⟩ := ha
  obtain ⟨t, ht, hte⟩ := hb
  refine ⟨.mul s t, ?_, fun F' hF v => by rw [Term.eval, hse F' hF, hte F' hF]⟩
  rw [String.toList_append, String.toList_append, List.append_assoc]
  have hspells := Spells.mul (Snippet.spells_paren hs).sign.product (Snippet.spells_paren ht).sign
  exact hspells.difference

/-- A quotient of operands. -/
theorem Denotes.div (ha : Denotes I F a f) (hb : Denotes I F b g) :
    Denotes I F (Snippet.paren a ++ "/" ++ Snippet.paren b) fun v => I.div (f v) (g v) := by
  obtain ⟨s, hs, hse⟩ := ha
  obtain ⟨t, ht, hte⟩ := hb
  refine ⟨.div s t, ?_, fun F' hF v => by rw [Term.eval, hse F' hF, hte F' hF]⟩
  rw [String.toList_append, String.toList_append, List.append_assoc]
  have hspells := Spells.div (Snippet.spells_paren hs).sign.product (Snippet.spells_paren ht).sign
  exact hspells.difference

/-- The negative of an operand. -/
theorem Denotes.neg (ha : Denotes I F a f) :
    Denotes I F ("-" ++ Snippet.paren a) fun v => I.neg (f v) := by
  obtain ⟨s, hs, hse⟩ := ha
  refine ⟨.neg s, ?_, fun F' hF v => by rw [Term.eval, hse F' hF]⟩
  rw [String.toList_append]
  exact (Spells.neg (Snippet.spells_paren hs).sign).product.difference

/-- Components of an operand. -/
theorem Denotes.member (ha : Denotes I F a f) {components : String}
    (hc : isName components.toList = true) :
    Denotes I F (Snippet.swizzle a components) fun v => I.member (f v) components := by
  obtain ⟨s, hs, hse⟩ := ha
  refine ⟨.member s components, ?_, fun F' hF v => by rw [Term.eval, hse F' hF]⟩
  have hmember := (Spells.member (Snippet.spells_paren hs) hc).ofSelection
  rw [String.ofList_toList] at hmember
  simpa [Snippet.swizzle] using hmember

/-! ## Calls -/

/-- Texts between commas are arguments. -/
theorem exists_row {args : List String} {fs : List (V → V)} (hne : args ≠ [])
    (h : List.Forall₂ (Denotes I F) args fs) :
    ∃ ts, Spells (.row ts) (",".intercalate args).toList ∧
      ∀ F', Later F F' → ∀ v, evalRow I F' v ts = fs.map (· v) := by
  induction h with
  | nil => exact absurd rfl hne
  | @cons a f args fs ha hrest ih =>
    obtain ⟨t, ht, hte⟩ := ha
    cases hrest with
    | nil =>
      refine ⟨[t], ?_, fun F' hF v => by simp [evalRow, hte F' hF]⟩
      rw [String.intercalate_singleton]
      exact .last ht
    | @cons b _ args _ hb hlater =>
      obtain ⟨ts, hts, htse⟩ := ih (by simp)
      refine ⟨t :: ts, ?_, fun F' hF v => by simp [evalRow, hte F' hF, htse F' hF]⟩
      rw [String.intercalate_cons_cons, String.toList_append, String.toList_append,
        List.append_assoc]
      exact .next ht hts

/-- A call of arguments. -/
theorem spells_call {name : String} {args : List String} {ts : List Term}
    (hname : isName name.toList = true) (h : Spells (.row ts) (",".intercalate args).toList) :
    Spells (.term .difference (.call name ts)) (Snippet.call name args).toList := by
  have hcall := (Spells.call hname h).ofAtom
  rw [String.ofList_toList] at hcall
  simpa [Snippet.call] using hcall

/-- A call of a function of the language. -/
theorem denotes_apply {name : String} {args : List String} {fs : List (V → V)}
    (hname : isName name.toList = true) (hbase : isNodeName name = false) (hne : args ≠ [])
    (h : List.Forall₂ (Denotes I F) args fs) :
    Denotes I F (Snippet.call name args) fun v => I.apply name (fs.map (· v)) := by
  obtain ⟨ts, hts, htse⟩ := exists_row hne h
  refine ⟨.call name ts, spells_call hname hts, ?_⟩
  intro F' hF v
  rw [Term.eval, hF.named name hbase, htse F' hF]

/-- A call of a declared function stands for it. -/
theorem means_call {name : String} {h : V → V} (hname : isName name.toList = true)
    (hF : F.lookup name = some h) : Means I F (fun q => name ++ "(" ++ q ++ ")") h := by
  intro F' hF' q f hq
  obtain ⟨ts, hts, htse⟩ := exists_row (by simp) (.cons hq .nil)
  refine ⟨.call name ts, ?_, ?_⟩
  · simpa only [Snippet.call, String.intercalate_singleton] using spells_call hname hts
  · intro F'' hF'' v
    rw [Term.eval, hF''.keeps name h (hF'.keeps name h hF), htse F'' hF'']
    rfl

end

end FieldGraph.Shader
