import FieldGraph.Field.Build
import FieldGraph.Proofs.Kind.Formula
import FieldGraph.Proofs.Number.Single

/-!
# Formulas and evaluators

A standard kind computes its value twice: its template writes an expression for a shader, its
evaluator computes directly at single precision. Read with the operations that the evaluators use,
the formula behind the template gives exactly the value of the evaluator, bit for bit, provided
that its inputs do.
-/

namespace FieldGraph

open Shader

/-- The values of expressions at single precision. -/
inductive Shader.Value where
  | scalar (x : Float32)
  | planar (x y : Float32)
  | vector (v : Vec3)
  /-- A record that holds an array of vectors of four numbers each. -/
  | block (numbers : List Float32)
  /-- An array of vectors of four numbers each. -/
  | rows (numbers : List Float32)
  /-- One vector of such an array. -/
  | row (numbers : List Float32) (index : Nat)

namespace Shader.Value

/-- The number at a place of a vector of four. -/
def entry (numbers : List Float32) (index : Nat) : Option Value := (numbers[index]?).map scalar

/-- Components of vectors and the field of the record. -/
def member : Value → String → Option Value
  | vector v, "x" => some (scalar v.x)
  | vector v, "y" => some (scalar v.y)
  | vector v, "z" => some (scalar v.z)
  | block numbers, "v" => some (rows numbers)
  | row numbers index, "x" => entry numbers (4 * index)
  | row numbers index, "y" => entry numbers (4 * index + 1)
  | row numbers index, "z" => entry numbers (4 * index + 2)
  | row numbers index, "w" => entry numbers (4 * index + 3)
  | _, _ => none

/-- A vector of an array. -/
def item : Value → Nat → Option Value
  | rows numbers, index => some (row numbers index)
  | _, _ => none

/-- The negative of a number. -/
def neg : Value → Option Value
  | scalar x => some (scalar (-x))
  | _ => none

/-- Products of numbers. -/
def mul : Value → Value → Option Value
  | scalar x, scalar y => some (scalar (x * y))
  | _, _ => none

/-- Quotients of numbers. A vector is divided by scaling it. -/
def div : Value → Value → Option Value
  | scalar x, scalar y => some (scalar (x / y))
  | vector v, scalar s => some (vector (Vec3.scale (1 / s) v))
  | _, _ => none

/-- Differences of numbers and of vectors. -/
def sub : Value → Value → Option Value
  | scalar x, scalar y => some (scalar (x - y))
  | vector v, vector w => some (vector (v.sub w))
  | _, _ => none

/-- Functions of the language and the library, computed as the evaluators compute them. -/
def apply : String → List Value → Option Value
  | "length", [vector v] => some (scalar v.norm)
  | "abs", [scalar x] => some (scalar (Single.abs x))
  | "min", [scalar x, scalar y] => some (scalar (Single.least x y))
  | "max", [scalar x, scalar y] => some (scalar (Single.greatest x y))
  | "vec2", [scalar x, scalar y] => some (planar x y)
  | "vec3", [scalar x, scalar y, scalar z] => some (vector ⟨x, y, z⟩)
  | "sdBox", [vector p, vector halfSize, scalar round] =>
      some (scalar (Shape.box p halfSize round))
  | "sdTorus", [vector p, planar major minor] => some (scalar (Shape.torus p major minor))
  | "opBend", [vector p, scalar k] => some (vector (Shape.bend p k))
  | "opTwist", [vector p, scalar k] => some (vector (Shape.twist p k))
  | "opMirror", [vector p, vector axes] => some (vector (Shape.mirror p axes))
  | "opSmoothUnion", [scalar a, scalar b, scalar k] => some (scalar (Blend.union a b k))
  | "opSmoothIntersect", [scalar a, scalar b, scalar k] =>
      some (scalar (Blend.intersection a b k))
  | "opSmoothDiff", [scalar a, scalar b, scalar k] => some (scalar (Blend.difference a b k))
  | _, _ => none

/-- The value of a sample that travels through a port. -/
def ofSample (type : PortType) (s : Sample) : Value :=
  if type.isVector then vector s.v else scalar s.s

end Shader.Value

/-- Single precision with the numbers of a uniform array. What has no value is `none`. -/
def Shader.Interpretation.single (dialect : Dialect) (uniforms : List Float32) :
    Interpretation (Option Value) where
  literal digits places := some (.scalar (Single.ofDecimal digits places))
  global name :=
    if name = uniformName then
      some (if dialect = .wgsl then .block uniforms else .rows uniforms)
    else none
  member a components := a.bind fun a => a.member components
  item a index := a.bind fun a => a.item index
  neg a := a.bind Value.neg
  mul a b := a.bind fun a => b.bind fun b => a.mul b
  div a b := a.bind fun a => b.bind fun b => a.div b
  sub a b := a.bind fun a => b.bind fun b => a.sub b
  apply name row := (row.mapM id).bind fun row => Value.apply name row

/-- What feeds an input is related to what stands for it, or there is neither. -/
def Related {α β : Type*} (r : PortType → α → β → Prop) (i : PortType × Option α)
    (b : Option β) : Prop :=
  match i.2, b with
  | some a, some b => r i.1 a b
  | none, none => True
  | _, _ => False

/-- A meaning gives the values of a function of the point. -/
def Gives (type : PortType) (f : Vec3 → Sample) (h : Option Value → Option Value) : Prop :=
  ∀ q, h (some (.vector q)) = some (.ofSample type (f q))

/-- What a kind's evaluator computes at a point from what feeds its inputs. -/
def Kind.direct (k : Kind) (is : List (PortType × Option (Vec3 → Sample)))
    (params : List Float32) (p : Vec3) : Sample :=
  Probe.run (m := Id) (Field.answer is) (k.evaluate p (is.map (·.2.isSome)) params)

/-- Where a formula is evaluated at single precision. -/
structure Setting where
  dialect : Dialect
  uniforms : List Float32
  point : Vec3
  /-- The meanings of the inputs. -/
  inputs : List (Option (Option Value → Option Value))
  params : List Float32

namespace Setting

/-- The value of a formula. -/
def value (s : Setting) (φ : Formula) : Option Value :=
  φ.mean (Interpretation.single s.dialect s.uniforms) (some (.vector s.point)) s.inputs
    (s.params.map fun x => some (.scalar x))

variable (s : Setting)

/-- The values of arguments are the values of the arguments. -/
theorem meanRow_eq (row : List Formula) :
    Formula.meanRow (Interpretation.single s.dialect s.uniforms) (some (.vector s.point)) s.inputs
      (s.params.map fun x => some (.scalar x)) row = row.map s.value := by
  induction row with
  | nil => rfl
  | cons a row ih => rw [Formula.meanRow, ih, List.map_cons, value]

@[simp] theorem value_point : s.value .point = some (.vector s.point) := rfl

@[simp] theorem value_call (f : String) (row : List Formula) :
    s.value (.call f row) = ((row.map s.value).mapM id).bind fun row => Value.apply f row := by
  rw [← meanRow_eq]
  rfl

@[simp] theorem value_member (a : Formula) (components : String) :
    s.value (.member a components) = (s.value a).bind fun a => a.member components := rfl

@[simp] theorem value_neg (a : Formula) : s.value (.neg a) = (s.value a).bind Value.neg := rfl

@[simp] theorem value_mul (a b : Formula) :
    s.value (.mul a b) = (s.value a).bind fun a => (s.value b).bind fun b => a.mul b := rfl

@[simp] theorem value_div (a b : Formula) :
    s.value (.div a b) = (s.value a).bind fun a => (s.value b).bind fun b => a.div b := rfl

@[simp] theorem value_sub (a b : Formula) :
    s.value (.sub a b) = (s.value a).bind fun a => (s.value b).bind fun b => a.sub b := rfl

/-- A parameter has the value of the node's parameter. -/
theorem value_param {s : Setting} {index : Nat} (h : index < s.params.length) :
    s.value (.param index) = some (.scalar (Kind.paramValue s.params index)) := by
  simp [value, Formula.mean, Kind.paramValue, h]

/-- An input that is fed or a point has the value that the evaluator is answered with. -/
theorem value_input {s : Setting} {is : List (PortType × Option (Vec3 → Sample))}
    (h : List.Forall₂ (Related Gives) is s.inputs) {index : Nat} {type : PortType}
    {feed : Option (Vec3 → Sample)} (hi : is[index]? = some (type, feed))
    (hopen : feed = none → type = .point) {place : Formula} {q : Vec3}
    (hplace : s.value place = some (.vector q)) :
    s.value (.input index place) = some (.ofSample type (Field.answer (m := Id) is index q)) := by
  obtain ⟨meaning, hmeaning, hanswers⟩ := Formula.forall₂_getElem? h hi
  unfold value at hplace
  rw [value, Formula.mean, hmeaning, hplace, Field.answer, hi]
  cases feed with
  | none =>
    cases meaning with
    | none => rw [hopen rfl]; rfl
    | some meaning => exact hanswers.elim
  | some f =>
    cases meaning with
    | none => exact hanswers.elim
    | some meaning => exact hanswers q

/-- A point input has the point that the evaluator is answered with. -/
theorem value_place {s : Setting} {a : Option (Vec3 → Sample)}
    (h : List.Forall₂ (Related Gives) [(.point, a)] s.inputs) :
    s.value (.input 0 .point) =
      some (.vector (Field.answer (m := Id) [(.point, a)] 0 s.point).v) :=
  value_input h rfl (fun _ => rfl) s.value_point

/-- A fed distance has the distance that the evaluator is answered with. -/
theorem value_distance {s : Setting} {is : List (PortType × Option (Vec3 → Sample))}
    (h : List.Forall₂ (Related Gives) is s.inputs) {index : Nat} {f : Vec3 → Sample}
    (hi : is[index]? = some (.distance, some f)) {place : Formula} {q : Vec3}
    (hplace : s.value place = some (.vector q)) :
    s.value (.input index place) = some (.scalar (f q).s) := by
  rw [value_input h hi nofun hplace, Field.answer, hi]
  rfl

/-- The first input of an operator has the distance of what feeds it. -/
theorem value_first {s : Setting} {f : Vec3 → Sample}
    {is : List (PortType × Option (Vec3 → Sample))}
    (h : List.Forall₂ (Related Gives) ((.distance, some f) :: is) s.inputs) {place : Formula}
    {q : Vec3} (hplace : s.value place = some (.vector q)) :
    s.value (.input 0 place) = some (.scalar (f q).s) :=
  value_distance h rfl hplace

/-- The first three parameters form a vector. -/
theorem value_vector {s : Setting} (h : 2 < s.params.length) :
    s.value Kind.vectorFormula = some (.vector (Kind.vectorValue s.params)) := by
  have hparam (index : Nat) (hindex : index ≤ 2) := value_param (Nat.lt_of_le_of_lt hindex h)
  simp only [Kind.vectorFormula, value_call, List.map, hparam 0 (by decide), hparam 1 (by decide),
    hparam 2 (by decide)]
  rfl

/-- The second input overrides a formula if it is fed. -/
theorem value_override {s : Setting} {type : PortType} {a : Vec3 → Sample}
    {b : Option (Vec3 → Sample)}
    (h : List.Forall₂ (Related Gives) [(.distance, some a), (type, b)] s.inputs) {default : Formula}
    {value : Value} (hdefault : s.value default = some value) :
    s.value (Kind.overrideFormula [true, b.isSome] default) =
      some ((b.map fun b => Value.ofSample type (b s.point)).getD value) := by
  cases b with
  | none => exact hdefault
  | some b =>
    have hinput : [(PortType.distance, some a), (type, some b)][1]? = some (type, some b) := rfl
    exact value_input h hinput nofun s.value_point

/-- The second input if it is fed, else the first parameter. -/
def chosen (b : Option (Vec3 → Sample)) : Float32 :=
  (b.map fun b => (b s.point).s).getD (Kind.paramValue s.params 0)

/-- A number that overrides a parameter. -/
theorem value_chosen {s : Setting} {a : Vec3 → Sample} {b : Option (Vec3 → Sample)}
    (h : List.Forall₂ (Related Gives) [(.distance, some a), (.scalar, b)] s.inputs)
    (hparam : 0 < s.params.length) :
    s.value (Kind.overrideFormula [true, b.isSome] (.param 0)) = some (.scalar (s.chosen b)) := by
  rw [value_override h (value_param hparam)]
  cases b <;> rfl

/-- Joining fed distances to a formula follows the evaluator that joins their values. -/
theorem value_join {s : Setting} {is : List (PortType × Option (Vec3 → Sample))}
    (h : List.Forall₂ (Related Gives) is s.inputs) {joined : Formula → Formula → Formula}
    {join : Float32 → Float32 → Float32}
    (hjoin : ∀ {a b x y}, s.value a = some (.scalar x) → s.value b = some (.scalar y) →
      s.value (joined a b) = some (.scalar (join x y)))
    {acc : Formula} {x : Float32} (hacc : s.value acc = some (.scalar x)) {index : Nat}
    {wired : List Bool}
    (hwired : ∀ j, wired[j]? = some true → ∃ f, is[index + j]? = some (.distance, some f)) :
    s.value (Kind.joinFormula joined acc index wired) =
      some (.scalar (Probe.run (m := Id) (Field.answer is)
        (Kind.foldProbe s.point join x index wired))) := by
  induction wired generalizing acc x index with
  | nil => exact hacc
  | cons fed rest ih =>
    have hrest (j : Nat) (hj : rest[j]? = some true) :
        ∃ f, is[index + 1 + j]? = some (.distance, some f) := by
      obtain ⟨f, hf⟩ := hwired (j + 1) (by simpa using hj)
      exact ⟨f, by rw [← hf]; congr 1; omega⟩
    cases fed with
    | false => exact ih hacc hrest
    | true =>
      obtain ⟨f, hf⟩ : ∃ f, is[index]? = some (.distance, some f) := hwired 0 rfl
      have hinput := value_distance h hf s.value_point
      rw [Kind.joinFormula, ih (hjoin hacc hinput) hrest, Kind.foldProbe, Probe.run,
        Field.answer, hf]
      rfl

end Setting

namespace Kind

open Setting

variable {s : Setting} {is : List (PortType × Option (Vec3 → Sample))}

/-- Formulas and evaluators of the primitives agree. -/
theorem value_formula_primitive {k : Kind} (hk : k ∈ [sphere, cube, plane, torus])
    (h : List.Forall₂ Serves k.inputs is) (ha : List.Forall₂ (Related Gives) is s.inputs)
    (hl : s.params.length = k.params.length) :
    s.value (k.formula (is.map (·.2.isSome))) =
      some (.ofSample k.resultType (k.direct is s.params s.point)) := by
  have hparam (index : Nat) (hindex : index < k.params.length) := value_param (hl ▸ hindex)
  simp only [List.mem_cons, List.not_mem_nil, or_false] at hk
  rcases hk with rfl | rfl | rfl | rfl <;> obtain ⟨a, rfl⟩ := serves_point h
  · simp only [sphere, formula, value_sub, value_call, List.map, value_place ha,
      hparam 0 (by decide)]
    rfl
  · simp only [cube, formula, value_call, List.map, value_place ha,
      value_vector (hl ▸ (by decide : 2 < cube.params.length)), hparam 3 (by decide)]
    rfl
  · simp only [plane, formula, value_sub, value_member, value_place ha, hparam 0 (by decide)]
    rfl
  · simp only [torus, formula, value_call, List.map, value_place ha, hparam 0 (by decide),
      hparam 1 (by decide)]
    rfl

/-- Formulas and evaluators of the operators that may override a number agree. -/
theorem value_formula_override {k : Kind} (hk : k ∈ [scale, bend, twist, round, shell])
    (h : List.Forall₂ Serves k.inputs is) (ha : List.Forall₂ (Related Gives) is s.inputs)
    (hl : s.params.length = k.params.length) :
    s.value (k.formula (is.map (·.2.isSome))) =
      some (.ofSample k.resultType (k.direct is s.params s.point)) := by
  simp only [List.mem_cons, List.not_mem_nil, or_false] at hk
  rcases hk with rfl | rfl | rfl | rfl | rfl <;> obtain ⟨a, b, rfl⟩ := serves_override h <;>
    have hchosen := value_chosen ha (hl ▸ Nat.one_pos)
  · have hplace : s.value (.div .point (overrideFormula [true, b.isSome] (.param 0))) =
        some (.vector (Vec3.scale (1 / s.chosen b) s.point)) := by
      rw [value_div, hchosen]
      rfl
    simp only [scale, formula, value_mul, List.map, Option.isSome_some, hchosen,
      value_first ha hplace]
    cases b <;> rfl
  · have hplace : s.value (.call "opBend" [.point, overrideFormula [true, b.isSome] (.param 0)]) =
        some (.vector (Shape.bend s.point (s.chosen b))) := by
      simp only [value_call, List.map, hchosen]
      rfl
    simp only [bend, formula, List.map, Option.isSome_some, value_first ha hplace]
    cases b <;> rfl
  · have hplace : s.value (.call "opTwist" [.point, overrideFormula [true, b.isSome] (.param 0)]) =
        some (.vector (Shape.twist s.point (s.chosen b))) := by
      simp only [value_call, List.map, hchosen]
      rfl
    simp only [twist, formula, List.map, Option.isSome_some, value_first ha hplace]
    cases b <;> rfl
  · simp only [round, formula, value_sub, List.map, Option.isSome_some, hchosen,
      value_first ha s.value_point]
    cases b <;> rfl
  · simp only [shell, formula, value_sub, value_call, List.map, Option.isSome_some, hchosen,
      value_first ha s.value_point]
    cases b <;> rfl

/-- The formula and the evaluator of a combinator agree if they join alike. -/
theorem value_combinator {id : String} {library : List Function} {specs : List ParamSpec}
    {joinText : List String → String → String → String}
    {join : List Float32 → Float32 → Float32 → Float32} {joined : Formula → Formula → Formula}
    (h : List.Forall₂ Serves combinatorInputs is)
    (ha : List.Forall₂ (Related Gives) is s.inputs)
    (hjoin : ∀ {a b x y}, s.value a = some (.scalar x) → s.value b = some (.scalar y) →
      s.value (joined a b) = some (.scalar (join s.params x y))) :
    s.value (combinatorFormula (is.map (·.2.isSome)) joined) =
      some (.ofSample .distance
        ((combinator id library specs joinText join).direct is s.params s.point)) := by
  obtain ⟨a, b, c, d, rfl⟩ := serves_combinator h
  rw [combinatorFormula, value_join ha hjoin (value_first ha s.value_point)]
  · cases c <;> cases d <;> rfl
  · intro j hj
    rcases j with _ | _ | _ | j
    · exact ⟨b, rfl⟩
    · obtain ⟨c, rfl⟩ : ∃ f, c = some f := Option.isSome_iff_exists.1 (by simpa using hj)
      exact ⟨c, rfl⟩
    · obtain ⟨d, rfl⟩ : ∃ f, d = some f := Option.isSome_iff_exists.1 (by simpa using hj)
      exact ⟨d, rfl⟩
    · simp at hj

/-- The formula of a translation agrees with its evaluator. -/
theorem value_formula_translate (h : List.Forall₂ Serves translate.inputs is)
    (ha : List.Forall₂ (Related Gives) is s.inputs)
    (hl : s.params.length = translate.params.length) :
    s.value (translate.formula (is.map (·.2.isSome))) =
      some (.ofSample .distance (translate.direct is s.params s.point)) := by
  obtain ⟨a, b, rfl⟩ := serves_override h
  have hplace : s.value (.sub .point (overrideFormula [true, b.isSome] vectorFormula)) =
      some (.vector (s.point.sub
        ((b.map fun b => (b s.point).v).getD (vectorValue s.params)))) := by
    rw [value_sub, value_override ha (value_vector (hl ▸ Nat.lt_succ_self 2))]
    cases b <;> rfl
  simp only [translate, formula, List.map, Option.isSome_some, value_first ha hplace]
  cases b <;> rfl

/-- The formula of a mirror agrees with its evaluator. -/
theorem value_formula_mirror (h : List.Forall₂ Serves mirror.inputs is)
    (ha : List.Forall₂ (Related Gives) is s.inputs) (hl : s.params.length = mirror.params.length) :
    s.value (mirror.formula (is.map (·.2.isSome))) =
      some (.ofSample .distance (mirror.direct is s.params s.point)) := by
  obtain ⟨a, rfl⟩ := serves_distance h
  have hvector := value_vector (hl ▸ (by decide : 2 < mirror.params.length))
  have hplace : s.value (.call "opMirror" [.point, vectorFormula]) =
      some (.vector (Shape.mirror s.point (vectorValue s.params))) := by
    simp only [value_call, List.map, hvector]
    rfl
  simp only [mirror, formula, value_first ha hplace]
  rfl

/-- The formula of a standard kind agrees with its evaluator at every point, if what feeds the
inputs agrees with their meanings. -/
theorem value_formula {k : Kind} (hk : k ∈ standard) (h : List.Forall₂ Serves k.inputs is)
    (ha : List.Forall₂ (Related Gives) is s.inputs) (hl : s.params.length = k.params.length) :
    s.value (k.formula (is.map (·.2.isSome))) =
      some (.ofSample k.resultType (k.direct is s.params s.point)) := by
  simp only [standard, List.mem_cons, List.not_mem_nil, or_false] at hk
  rcases hk with rfl | rfl | rfl | rfl | rfl | rfl | rfl | rfl | rfl | rfl | rfl | rfl | rfl |
    rfl | rfl | rfl | rfl | rfl | rfl | rfl | rfl
  iterate 4
    exact value_formula_primitive (by simp) h ha hl
  · exact value_formula_translate h ha hl
  iterate 3
    exact value_formula_override (by simp) h ha hl
  · exact value_formula_mirror h ha hl
  iterate 2
    exact value_formula_override (by simp) h ha hl
  iterate 3
    exact value_combinator h ha fun hx hy => by
      simp only [value_call, value_neg, List.map, hx, hy]
      rfl
  iterate 3
    have hparam : s.value (.param 0) = _ := value_param (hl ▸ Nat.one_pos)
    exact value_combinator h ha fun hx hy => by
      simp only [value_call, List.map, hx, hy, hparam]
      rfl
  · cases h
    exact value_param (hl ▸ Nat.one_pos)
  · cases h
    exact value_vector (hl ▸ Nat.lt_succ_self 2)
  · cases h
    rfl
  · obtain ⟨a, rfl⟩ := serves_distance h
    exact value_first ha s.value_point

end Kind

end FieldGraph
