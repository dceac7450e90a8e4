import FieldGraph.Field.Build
import FieldGraph.Kind.Standard
import FieldGraph.Proofs.Number.Equality

/-!
# Nodes that do not tell equal points apart

Points are compared as floats are, so points that compare equal may differ in the signs of zeros.
A node is steady if it has one sample for all of them, as long as its inputs have. Among the
standard kinds these are the ones that look at a point through magnitudes only, or hand it on as it
is; the position itself and a plane at height zero are not steady.
-/

namespace FieldGraph

/-- Points that compare equal have the same distance from the origin. -/
theorem Vec3.norm_eq_of_same {p q : Vec3} (h : p.same q = true) : p.norm = q.norm := by
  simp only [same, Bool.and_eq_true] at h
  obtain ⟨⟨hx, hy⟩, hz⟩ := h
  rw [norm, norm, Single.hypot_congr_left hx, Single.hypot_congr_left hy,
    Single.hypot_congr_right _ hz]

/-- Points that compare equal are folded to points that do. -/
theorem Shape.same_mirror {p q : Vec3} (h : p.same q = true) (axes : Vec3) :
    (mirror p axes).same (mirror q axes) = true := by
  have hfold : ∀ {x y : Float32} (flag : Prop) [Decidable flag], (x == y) = true →
      ((if flag then Single.abs x else x) == (if flag then Single.abs y else y)) = true := by
    intro x y flag _ hxy
    split
    · rw [← Single.abs_eq_of_beq hxy]
      exact Single.abs_beq_self (Single.unpack_ne_of_beq hxy)
    · exact hxy
  simp only [Vec3.same, Bool.and_eq_true] at h ⊢
  obtain ⟨⟨hx, hy⟩, hz⟩ := h
  exact ⟨⟨hfold _ hx, hfold _ hy⟩, hfold _ hz⟩

/-- Running one probe after another. -/
theorem Probe.run_bind {α β : Type} (answer : Nat → Vec3 → Id Sample) (x : Probe α)
    (f : α → Probe β) : (x.bind f).run answer = (f (x.run answer)).run answer := by
  induction x with
  | done a => rfl
  | ask input point next ih => exact ih _

namespace Field

/-- A function with the same sample at points that compare equal. -/
def Steady (f : Vec3 → Sample) : Prop := ∀ p q, p.same q = true → f p = f q

/-- Inputs that fit the ports of a node and are fed by steady functions. -/
structure SteadyInputs (n : Node) (inputs : List (PortType × Option (Vec3 → Sample))) : Prop where
  types : inputs.map (·.1) = n.kind.inputs.map (·.type)
  feeds : ∀ input ∈ inputs, ∀ f, input.2 = some f → Steady f

/-- A node that is steady whenever what feeds its inputs is. -/
def SteadyNode (n : Node) : Prop :=
  ∀ inputs, SteadyInputs n inputs → Steady (nodeSampler (m := Id) n inputs)

variable {n : Node} {inputs : List (PortType × Option (Vec3 → Sample))}

/-- An input is answered alike at points that compare equal, unless it is the point itself. -/
theorem SteadyInputs.answer_eq (h : SteadyInputs n inputs) {p q : Vec3} (hsame : p.same q = true)
    (index : Nat) :
    answer (m := Id) inputs index p = answer (m := Id) inputs index q ∨
      (∃ port, n.kind.inputs[index]? = some port ∧ port.type = .point) ∧
        answer (m := Id) inputs index p = { v := p } ∧
        answer (m := Id) inputs index q = { v := q } := by
  have htype : (inputs.map (·.1))[index]? = (n.kind.inputs.map (·.type))[index]? := by rw [h.types]
  rw [List.getElem?_map, List.getElem?_map] at htype
  unfold answer
  cases hinput : inputs[index]? with
  | none => exact .inl rfl
  | some input =>
    obtain ⟨type, feed⟩ := input
    cases feed with
    | some f => exact .inl (h.feeds _ (List.mem_of_getElem? hinput) f rfl p q hsame)
    | none =>
      rw [hinput, Option.map_some, eq_comm, Option.map_eq_some_iff] at htype
      obtain ⟨port, hport, hpoint⟩ := htype
      cases type with
      | point => exact .inr ⟨⟨port, hport, hpoint⟩, rfl, rfl⟩
      | _ => exact .inl rfl

/-- A node none of whose inputs takes points has its inputs answered alike. -/
theorem SteadyInputs.answer_eq_of_ne (h : SteadyInputs n inputs)
    (hports : ∀ port ∈ n.kind.inputs, port.type ≠ .point) {p q : Vec3} (hsame : p.same q = true)
    (index : Nat) : answer (m := Id) inputs index p = answer (m := Id) inputs index q := by
  rcases h.answer_eq hsame index with heq | ⟨⟨port, hport, hpoint⟩, -⟩
  · exact heq
  · exact absurd hpoint (hports port (List.mem_of_getElem? hport))

/-- A sphere looks at the distance of its point from the origin only. -/
theorem steadyNode_sphere (h : n.kind = Kind.sphere) : SteadyNode n := by
  intro inputs hinputs p q hsame
  have hvalue : ∀ p, nodeSampler (m := Id) n inputs p =
      { s := (answer (m := Id) inputs 0 p).v.norm - Kind.paramValue n.params 0 } := by
    intro p
    rw [nodeSampler, h]
    rfl
  have hnorm : (answer (m := Id) inputs 0 p).v.norm = (answer (m := Id) inputs 0 q).v.norm := by
    rcases hinputs.answer_eq hsame 0 with heq | ⟨-, hp, hq⟩
    · rw [heq]
    · rw [hp, hq]
      exact Vec3.norm_eq_of_same hsame
  rw [hvalue, hvalue, hnorm]

/-- A mirror samples its input at folded points. -/
theorem steadyNode_mirror (h : n.kind = Kind.mirror) : SteadyNode n := by
  intro inputs hinputs p q hsame
  have hvalue : ∀ p, nodeSampler (m := Id) n inputs p =
      answer (m := Id) inputs 0 (Shape.mirror p (Kind.vectorValue n.params)) := by
    intro p
    rw [nodeSampler, h]
    rfl
  rw [hvalue, hvalue]
  refine hinputs.answer_eq_of_ne ?_ (Shape.same_mirror hsame _) 0
  rw [h]
  decide

/-- Joining samples taken at points that compare equal gives the same. -/
theorem run_foldProbe_eq {p q : Vec3}
    (h : ∀ index, answer (m := Id) inputs index p = answer (m := Id) inputs index q)
    (join : Float32 → Float32 → Float32) (acc : Float32) (index : Nat) (wired : List Bool) :
    (Kind.foldProbe p join acc index wired).run (answer (m := Id) inputs) =
      (Kind.foldProbe q join acc index wired).run (answer (m := Id) inputs) := by
  induction wired generalizing acc index with
  | nil => rfl
  | cons fed rest ih =>
    cases fed with
    | false => exact ih acc (index + 1)
    | true =>
      simp only [Kind.foldProbe, Probe.run, h index]
      exact ih _ (index + 1)

/-- A combinator samples its inputs where it is sampled. -/
theorem steadyNode_combinator {id : String} {library : List Shader.Function}
    {params : List ParamSpec} {joinText : List String → String → String → String}
    {join : List Float32 → Float32 → Float32 → Float32}
    (h : n.kind = Kind.combinator id library params joinText join) : SteadyNode n := by
  intro inputs hinputs p q hsame
  have hanswer : ∀ index, answer (m := Id) inputs index p = answer (m := Id) inputs index q := by
    refine hinputs.answer_eq_of_ne ?_ hsame
    rw [h]
    change ∀ port ∈ Kind.combinatorInputs, port.type ≠ .point
    decide
  have hvalue : ∀ p, nodeSampler (m := Id) n inputs p =
      { s := (Kind.foldProbe p (join n.params) (answer (m := Id) inputs 0 p).s 1
          ((inputs.map (·.2.isSome)).drop 1)).run (answer (m := Id) inputs) } := by
    intro p
    rw [nodeSampler, h]
    exact Probe.run_bind (answer (m := Id) inputs) (Kind.foldProbe p (join n.params)
      (answer (m := Id) inputs 0 p).s 1 ((inputs.map (·.2.isSome)).drop 1))
      fun all => .done ({ s := all } : Sample)
  rw [hvalue, hvalue, hanswer 0, run_foldProbe_eq hanswer]

/-- The output hands on what feeds it. -/
theorem steadyNode_output (h : n.kind = Kind.output) : SteadyNode n := by
  intro inputs hinputs p q hsame
  have hvalue : ∀ p, nodeSampler (m := Id) n inputs p = answer (m := Id) inputs 0 p := by
    intro p
    rw [nodeSampler, h]
    rfl
  rw [hvalue, hvalue]
  refine hinputs.answer_eq_of_ne ?_ hsame 0
  rw [h]
  decide

end Field

end FieldGraph
