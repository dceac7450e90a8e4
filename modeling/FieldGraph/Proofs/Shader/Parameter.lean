import FieldGraph.Proofs.Kind.Agreement
import FieldGraph.Proofs.Kind.Standard
import FieldGraph.Proofs.Shader.Literal

/-!
# What the text of a parameter denotes

A parameter is written as a literal or as a component of the uniform array. The literal of a
finite float is a row of digits with a point inside, behind a minus sign if the sign is set; read
at single precision it denotes the float, bit for bit. A component of the uniform array denotes the
number at its place.
-/

namespace FieldGraph.Shader

/-! ## Literals -/

/-- The literal of a finite float spells a decimal equal to its magnitude, with its sign. -/
theorem exists_literal {x : Float32} {negative : Bool} {m : Nat} {e : Int}
    (h : Binary.ofSingle x = .finite negative m e) :
    ∃ digits places : Nat, (digits / 10 ^ places : ℚ) = Single.written m e ∧
      Spells (.term .difference
        (if negative then .neg (.literal digits places) else .literal digits places))
        (literal x).toList := by
  obtain ⟨n, rfl, hvalue, hbytes⟩ := exists_numeral h
  refine ⟨_, n.part.length, hvalue, ?_⟩
  have hspells := Spells.literal n.isDigits_whole n.isDigits_part
  rw [toList_literal hbytes]
  cases n.negative with
  | false => exact hspells.ofAtom
  | true => exact (Spells.neg hspells.selection.sign).product.difference

/-! ## Constants -/

universe u

variable {V : Type u}

/-- A text that denotes the same value everywhere and after all declarations. -/
def Constant (I : Interpretation V) (text : String) (v : V) : Prop :=
  ∀ F, Denotes I F text fun _ => v

/-- The literal of a finite float is a constant of every interpretation. -/
theorem exists_constant_literal (I : Interpretation V) {x : Float32} (hx : x.isFinite = true) :
    ∃ v, Constant I (literal x) v := by
  obtain ⟨negative, m, e, h⟩ := Single.ofSingle_of_isFinite hx
  obtain ⟨digits, places, -, hspells⟩ := exists_literal h
  refine ⟨if negative then I.neg (I.literal digits places) else I.literal digits places,
    fun F => ⟨_, hspells, fun F' _ v => ?_⟩⟩
  cases negative <;> simp [Term.eval]

/-- At single precision the literal of a finite float is the float. -/
theorem constant_literal (dialect : Dialect) (uniforms : List Float32) {x : Float32}
    (hx : x.isFinite = true) :
    Constant (Interpretation.single dialect uniforms) (literal x) (some (.scalar x)) := by
  obtain ⟨negative, m, e, h⟩ := Single.ofSingle_of_isFinite hx
  obtain ⟨digits, places, hdecimal, hspells⟩ := exists_literal h
  refine fun F => ⟨_, hspells, fun F' _ v => ?_⟩
  have hvalue := Single.ofDecimal_eq h hdecimal
  cases negative with
  | false => exact congrArg (some ∘ Value.scalar) hvalue
  | true => exact congrArg (some ∘ Value.scalar) hvalue

/-! ## The uniform array -/

/-- The expression for a vector of the uniform array. -/
def vectorTerm (dialect : Dialect) (index : Nat) : Term :=
  .item (if dialect = .wgsl then .member (.name uniformName) "v" else .name uniformName) index

/-- A number is written with digits. -/
theorem isDigits_toString (n : Nat) : isDigits (toString n).toList = true := by
  rw [Nat.toString_eq_ofList_toDigits, String.toList_ofList]
  exact isDigits_iff.mpr ⟨Nat.toDigits_ne_nil,
    fun c hc => Nat.isDigit_of_mem_toDigits (by decide) (by decide) hc⟩

/-- A parameter in the uniform array is spelled as a component of a vector. -/
theorem spells_uniform (c : Compiler) (first index : Nat) (value : Float32) :
    Spells (.term .difference (.member (vectorTerm c.dialect (first + index / 4))
      (String.ofList [component index]))) (c.paramText (some first) index value).toList := by
  have hdigits := isDigits_toString (first + index / 4)
  have hvalue : Nat.ofDigitChars 10 (toString (first + index / 4)).toList 0 =
      first + index / 4 := by
    rw [Nat.toString_eq_ofList_toDigits, String.toList_ofList, Nat.ofDigitChars_ten_toDigits]
  have hname : isName [component index] = true := by
    unfold component
    split <;> rfl
  have hread {t : Term} {cs : List Char} (h : Spells (.term .selection t) cs) :
      Spells (.term .difference (.member (.item t (first + index / 4))
        (String.ofList [component index])))
        (cs ++ '[' :: ((toString (first + index / 4)).toList ++ [']']) ++
          ['.', component index]) := by
    have hspells := (Spells.member (Spells.item h hdigits) hname).ofSelection
    rwa [hvalue] at hspells
  have harray : Spells (.term .selection (.name uniformName)) uniformName.toList :=
    (Spells.name (w := uniformName.toList) (by decide)).selection
  simp only [vectorTerm, Compiler.paramText]
  by_cases hwgsl : c.dialect = .wgsl
  · have hfield := hread (Spells.member harray (w := ['v']) rfl)
    simpa [hwgsl] using hfield
  · simpa [hwgsl] using hread harray

/-- Vectors of the uniform array in an interpretation. -/
def Interpretation.vector (I : Interpretation V) (dialect : Dialect) (index : Nat) : V :=
  I.item (if dialect = .wgsl then I.member (I.global uniformName) "v" else I.global uniformName)
    index

/-- A parameter in the uniform array is a constant of every interpretation. -/
theorem constant_uniform (I : Interpretation V) (c : Compiler) (first index : Nat)
    (value : Float32) :
    Constant I (c.paramText (some first) index value)
      (I.member (I.vector c.dialect (first + index / 4)) (String.ofList [component index])) := by
  refine fun F => ⟨_, spells_uniform c first index value, fun F' _ v => ?_⟩
  have hname : uniformName ≠ pointName := by decide
  by_cases hwgsl : c.dialect = .wgsl
  · simp [vectorTerm, Interpretation.vector, Term.eval, hwgsl, hname]
  · simp [vectorTerm, Interpretation.vector, Term.eval, hwgsl, hname]

/-- At single precision a component of the uniform array is the number at its place. -/
theorem member_vector_single (dialect : Dialect) (uniforms : List Float32) (first index : Nat) :
    let I := Interpretation.single dialect uniforms
    I.member (I.vector dialect (first + index / 4)) (String.ofList [component index]) =
      Value.entry uniforms (4 * first + index) := by
  have hvector : (Interpretation.single dialect uniforms).vector dialect (first + index / 4) =
      some (.row uniforms (first + index / 4)) := by
    by_cases hwgsl : dialect = .wgsl
    · simp [Interpretation.vector, Interpretation.single, hwgsl, Value.member, Value.item]
    · simp [Interpretation.vector, Interpretation.single, hwgsl, Value.item]
  intro I
  rw [hvector]
  change Value.member (.row uniforms (first + index / 4)) (String.ofList [component index]) = _
  have hplace : 4 * first + index = 4 * (first + index / 4) + index % 4 := by omega
  have hmod : index % 4 < 4 := Nat.mod_lt index (by decide)
  rw [hplace, component]
  generalize index % 4 = rest at hmod
  match rest, hmod with
  | 0, _ => rfl
  | 1, _ => rfl
  | 2, _ => rfl
  | 3, _ => rfl

end FieldGraph.Shader

/-! ## The parameters of a node -/

namespace FieldGraph.Compiler

open Shader

universe u

variable {V : Type u} (c : Compiler) (n : Node)

/-- Where the parameters of a node start in the uniform array that grows so far. -/
def slot (uniforms : List Float32) : Option Nat :=
  if c.mode = .uniform ∧ n.params ≠ [] then some (uniforms.length / 4) else none

/-- The texts of the parameters of a node. -/
def paramTexts (uniforms : List Float32) : List String :=
  n.params.zipIdx.map fun (value, index) => c.paramText (c.slot n uniforms) index value

/-- The uniform array with the parameters of a node. -/
def withParams (uniforms : List Float32) : List Float32 :=
  if c.mode = .uniform ∧ n.params ≠ [] then uniforms ++ padded n.params else uniforms

/-- The uniform array only grows. -/
theorem prefix_withParams (uniforms : List Float32) : uniforms <+: c.withParams n uniforms := by
  unfold withParams
  split
  · exact List.prefix_append ..
  · exact List.prefix_refl _

/-- The uniform array stays made of whole vectors. -/
theorem dvd_length_withParams {uniforms : List Float32} (h : 4 ∣ uniforms.length) :
    4 ∣ (c.withParams n uniforms).length := by
  unfold withParams
  split
  · simp only [List.length_append, padded, List.length_replicate]
    omega
  · exact h

/-- The parameters of a node are constants of every interpretation. -/
theorem exists_constants (I : Interpretation V) (hfinite : ∀ x ∈ n.params, x.isFinite = true)
    (uniforms : List Float32) : ∃ xs, List.Forall₂ (Constant I) (c.paramTexts n uniforms) xs := by
  have htext : ∀ text ∈ c.paramTexts n uniforms, ∃ v, Constant I text v := by
    intro text htext
    obtain ⟨⟨value, index⟩, hmem, rfl⟩ := List.mem_map.mp htext
    cases hslot : c.slot n uniforms with
    | none => exact exists_constant_literal I (hfinite value (List.fst_mem_of_mem_zipIdx hmem))
    | some first => exact ⟨_, constant_uniform I c first index value⟩
  generalize c.paramTexts n uniforms = texts at htext
  induction texts with
  | nil => exact ⟨[], .nil⟩
  | cons text texts ih =>
    obtain ⟨v, hv⟩ := htext text (by simp)
    obtain ⟨vs, hvs⟩ := ih fun t ht => htext t (by simp [ht])
    exact ⟨v :: vs, .cons hv hvs⟩

/-- At single precision the parameters of a node are its parameter values. -/
theorem constants_single (hfinite : ∀ x ∈ n.params, x.isFinite = true)
    {uniforms final : List Float32} (haligned : 4 ∣ uniforms.length)
    (hfinal : c.withParams n uniforms <+: final) :
    List.Forall₂ (Constant (Interpretation.single c.dialect final)) (c.paramTexts n uniforms)
      (n.params.map fun x => some (.scalar x)) := by
  rw [List.forall₂_iff_get]
  refine ⟨by simp [paramTexts], ?_⟩
  intro i hi hi'
  have hlt : i < n.params.length := by simpa [paramTexts] using hi
  have htext : (c.paramTexts n uniforms).get ⟨i, hi⟩ =
      c.paramText (c.slot n uniforms) i n.params[i] := by simp [paramTexts]
  have hvalue : (n.params.map fun x => some (Value.scalar x)).get ⟨i, hi'⟩ =
      some (.scalar n.params[i]) := by simp
  rw [htext, hvalue]
  cases hslot : c.slot n uniforms with
  | none => exact constant_literal _ _ (hfinite _ (List.getElem_mem hlt))
  | some first =>
    have hentry : Value.entry final (4 * first + i) = some (.scalar n.params[i]) := by
      unfold slot at hslot
      split at hslot
      next huniform =>
        have hstart : 4 * first = uniforms.length := by
          have := Option.some.inj hslot
          omega
        obtain ⟨rest, rfl⟩ := hfinal
        rw [Value.entry, withParams, if_pos huniform, padded, hstart, List.append_assoc,
          List.append_assoc, List.getElem?_append_right (Nat.le_add_right ..),
          Nat.add_sub_cancel_left, List.getElem?_append_left hlt, List.getElem?_eq_getElem hlt]
        rfl
      next => cases hslot
    have hconstant := constant_uniform (Interpretation.single c.dialect final) c first i
      n.params[i]
    rwa [member_vector_single, hentry] at hconstant

end FieldGraph.Compiler
