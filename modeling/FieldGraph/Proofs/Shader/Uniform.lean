import FieldGraph.Proofs.Shader.Parameter
import FieldGraph.Proofs.Shader.Reuse
import FieldGraph.Proofs.Shader.Upstream

/-!
# Parameter values stay out of the text

In uniform mode the text of a parameter names a place in the uniform array, and which place that is
depends on how many parameters nodes have, not on their values. Two generations are run side by
side, over graphs that differ in the values of some parameters only: they agree in everything but
the uniform arrays, and these have the same layout and differ where those parameters are kept.
-/

namespace FieldGraph

/-! ## Outcomes side by side -/

/-- Two computations agree: both fail with one error, or both succeed with related results. -/
inductive Agree {ε α β : Type} (r : α → β → Prop) : Except ε α → Except ε β → Prop where
  | error (e : ε) : Agree r (.error e) (.error e)
  | ok {a : α} {b : β} (h : r a b) : Agree r (.ok a) (.ok b)

/-- Computations that agree and go on alike agree in the end. -/
theorem Agree.bind {ε α β γ δ : Type} {r : α → β → Prop} {s : γ → δ → Prop} {x : Except ε α}
    {y : Except ε β} {f : α → Except ε γ} {k : β → Except ε δ} (h : Agree r x y)
    (hf : ∀ a b, r a b → Agree s (f a) (k b)) : Agree s (x >>= f) (y >>= k) := by
  cases h with
  | error e => exact .error e
  | ok h => exact hf _ _ h

/-! ## Graphs with other parameter values -/

/-- A value for a named parameter of a node. -/
structure Assignment where
  node : NodeId
  name : String
  value : Float32

/-- The edit that makes an assignment. -/
def Assignment.edit (a : Assignment) : Edit := .setParameter a.node a.name a.value

/-- Two nodes differ in the values of some parameters only. -/
structure Node.Revalued (changed : Nat → Prop) (n n' : Node) : Prop where
  id : n'.id = n.id
  kind : n'.kind = n.kind
  length : n'.params.length = n.params.length
  values : ∀ i, n'.params[i]? ≠ n.params[i]? → changed i

/-- Corresponding nodes both have parameters, or neither has. -/
theorem Node.Revalued.params_ne_nil {changed : Nat → Prop} {n n' : Node}
    (h : n.Revalued changed n') : n'.params ≠ [] ↔ n.params ≠ [] := by
  rw [← List.length_pos_iff, ← List.length_pos_iff, h.length]

namespace Graph

/-- Some assignment is of the numbered parameter of a node. -/
def Assigned (g : Graph) (assignments : List Assignment) (id : NodeId) (index : Nat) : Prop :=
  ∃ a ∈ assignments, a.node = id ∧ ∃ n, g.node? id = some n ∧ n.kind.param? a.name = some index

/-- Two graphs differ in the values of some parameters only. -/
structure Revalued (changed : NodeId → Nat → Prop) (g g' : Graph) : Prop where
  rest : g' = { g with nodes := g'.nodes }
  nodes : List.Forall₂ (fun n n' => n.Revalued (changed n.id) n') g.nodes g'.nodes

namespace Revalued

variable {changed : NodeId → Nat → Prop} {g g' : Graph}

theorem refl (changed : NodeId → Nat → Prop) (g : Graph) : Revalued changed g g :=
  ⟨rfl, List.forall₂_same.mpr fun _ _ => ⟨rfl, rfl, rfl, fun _ h => absurd rfl h⟩⟩

theorem mono {changed' : NodeId → Nat → Prop} (h : Revalued changed g g')
    (hle : ∀ id index, changed id index → changed' id index) : Revalued changed' g g' :=
  ⟨h.rest, h.nodes.imp fun n _ hn =>
    ⟨hn.id, hn.kind, hn.length, fun i hi => hle n.id i (hn.values i hi)⟩⟩

/-- Under every number there is no node in both graphs, or there are corresponding ones. -/
theorem node_cases (h : Revalued changed g g') (id : NodeId) :
    (g.node? id = none ∧ g'.node? id = none) ∨
      ∃ n n', g.node? id = some n ∧ g'.node? id = some n' ∧ n.Revalued (changed id) n' := by
  have hnodes := h.nodes
  unfold node?
  generalize g.nodes = nodes, g'.nodes = nodes' at hnodes
  induction hnodes with
  | nil => exact Or.inl ⟨rfl, rfl⟩
  | @cons n n' nodes nodes' hn _ ih =>
    by_cases hid : n.id = id
    · subst hid
      exact Or.inr ⟨n, n', by simp, by simp [hn.id], hn⟩
    · simpa [hid, hn.id] using ih

/-- Inputs have the same sources. -/
theorem source?_eq (h : Revalued changed g g') (id : NodeId) (index : Nat) :
    g.source? id index = g'.source? id index := by
  rw [h.rest]
  rfl

/-- The listed nodes consume the same. -/
theorem consumed_eq (h : Revalued changed g g') (order : List NodeId) :
    g.consumed order = g'.consumed order := by
  refine consumed_congr (fun id _ => ?_) fun id _ => h.source?_eq id
  rcases h.node_cases id with ⟨hn, hn'⟩ | ⟨n, n', hn, hn', hsame⟩
  · rw [hn, hn']
  · rw [hn, hn', Option.map_some, Option.map_some, hsame.kind]

/-- An assignment that is accepted changes the parameter it is of. -/
theorem setParameter (h : Revalued changed g g') {a : Assignment} {next : Graph}
    (hset : g'.setParameter a.node a.name a.value = .ok next)
    (hchanged : ∀ index, g.Assigned [a] a.node index → changed a.node index) :
    Revalued changed g next := by
  obtain ⟨live, index, _, hlive, hindex, -, -, rfl⟩ := setParameter_eq_ok_iff.mp hset
  have hassigned : changed a.node index := by
    refine hchanged index ⟨a, by simp, rfl, ?_⟩
    rcases h.node_cases a.node with ⟨-, hn'⟩ | ⟨n, n', hn, hn', hsame⟩
    · cases hn'.symm.trans hlive
    · obtain rfl := Option.some.inj (hn'.symm.trans hlive)
      exact ⟨n, hn, hsame.kind ▸ hindex⟩
  refine ⟨by rw [h.rest]; rfl, List.forall₂_map_right_iff.mpr (h.nodes.imp ?_)⟩
  intro n n' hn
  split
  next hid =>
    refine ⟨hn.id, hn.kind, by simp [hn.length], fun i hi => ?_⟩
    by_cases hsame : index = i
    · rw [← hsame, ← hn.id, hid]
      exact hassigned
    · exact hn.values i (by rwa [List.getElem?_set_ne hsame] at hi)
  next => exact hn

end Revalued

/-- Assignments change the values of the parameters they are of. -/
theorem revalued_run (g : Graph) (assignments : List Assignment) :
    Revalued (g.Assigned assignments) g (g.run (assignments.map Assignment.edit)) := by
  induction assignments using List.reverseRecOn with
  | nil => exact .refl _ g
  | append_singleton assignments a ih =>
    have hbefore : Revalued (g.Assigned (assignments ++ [a])) g
        (g.run (assignments.map Assignment.edit)) :=
      ih.mono fun id index ⟨b, hb, hassigned⟩ => ⟨b, List.mem_append_left _ hb, hassigned⟩
    rw [List.map_append, run, List.foldl_append]
    change Revalued _ g ((g.run (assignments.map Assignment.edit)).edit a.edit)
    unfold edit
    split
    next r next hok =>
      obtain ⟨_, hset, he⟩ := map_eq_ok_iff.mp hok
      cases he
      refine hbefore.setParameter hset ?_
      rintro index ⟨b, hb, hassigned⟩
      exact ⟨b, List.mem_append_right _ hb, hassigned⟩
    next => exact hbefore

end Graph

/-! ## Uniform arrays of one layout -/

/-- Two uniform arrays of one layout differ only where changed parameters are kept. -/
structure Shader.Revalued (changed : NodeId → Nat → Prop) (codes : List NodeCode)
    (uniforms uniforms' : List Float32) : Prop where
  length : uniforms'.length = uniforms.length
  values : ∀ k, uniforms'[k]? ≠ uniforms[k]? → ∃ code ∈ codes, ∃ slot i,
    code.slot = some slot ∧ k = 4 * slot + i ∧ changed code.node i

namespace Compiler

open Shader

variable {c : Compiler} {changed : NodeId → Nat → Prop} {n n' : Node}
  {uniforms uniforms' : List Float32}

/-- The parameters of corresponding nodes start at one place. -/
theorem slot_eq (hn : n.Revalued (changed n.id) n') (h : uniforms'.length = uniforms.length) :
    c.slot n' uniforms' = c.slot n uniforms := by
  simp only [slot, h, hn.params_ne_nil]

/-- In uniform mode the texts of parameters do not depend on the values. -/
theorem paramTexts_eq (hmode : c.mode = .uniform) (hn : n.Revalued (changed n.id) n')
    (h : uniforms'.length = uniforms.length) :
    c.paramTexts n' uniforms' = c.paramTexts n uniforms := by
  refine List.ext_getElem (by simp [paramTexts, hn.length]) fun i hi' hi => ?_
  have hsome : c.slot n uniforms = some (uniforms.length / 4) := by
    have hne : n.params ≠ [] := by
      rintro hnil
      simp [paramTexts, hnil] at hi
    rw [slot, if_pos ⟨hmode, hne⟩]
  simp [paramTexts, slot_eq hn h, hsome, paramText]

/-- The uniform arrays keep one layout when the parameters of corresponding nodes are added. -/
theorem revalued_withParams {codes : List NodeCode} {code : NodeCode}
    (h : Shader.Revalued changed codes uniforms uniforms') (haligned : 4 ∣ uniforms.length)
    (hn : n.Revalued (changed n.id) n') (hnode : code.node = n.id)
    (hslot : code.slot = c.slot n uniforms) :
    Shader.Revalued changed (codes ++ [code]) (c.withParams n uniforms)
      (c.withParams n' uniforms') := by
  have hbefore : ∀ k, uniforms'[k]? ≠ uniforms[k]? → ∃ code' ∈ codes ++ [code], ∃ slot i,
      code'.slot = some slot ∧ k = 4 * slot + i ∧ changed code'.node i := fun k hk =>
    (h.values k hk).imp fun _ => And.imp_left (List.mem_append_left _)
  unfold slot at hslot
  simp only [withParams, hn.params_ne_nil]
  split at hslot
  next hstored =>
    rw [if_pos hstored, if_pos hstored]
    refine ⟨by simp [padded, h.length, hn.length], fun k hk => ?_⟩
    by_cases hk' : k < uniforms.length
    · rw [List.getElem?_append_left hk', List.getElem?_append_left (h.length ▸ hk')] at hk
      exact hbefore k hk
    · -- Behind the old array stand the values of the node and then zeros.
      have hle := Nat.le_of_not_lt hk'
      rw [List.getElem?_append_right hle, List.getElem?_append_right (h.length ▸ hle), h.length]
        at hk
      refine ⟨code, by simp, uniforms.length / 4, k - uniforms.length, hslot, by omega, ?_⟩
      rw [hnode]
      refine hn.values _ fun hsame => hk ?_
      by_cases hvalue : k - uniforms.length < n.params.length
      · rwa [padded, padded, List.getElem?_append_left hvalue,
          List.getElem?_append_left (hn.length ▸ hvalue)]
      · have hzero := Nat.le_of_not_lt hvalue
        rw [padded, padded, List.getElem?_append_right hzero,
          List.getElem?_append_right (hn.length ▸ hzero), hn.length]
  next hnot =>
    rw [if_neg hnot, if_neg hnot]
    exact ⟨h.length, hbefore⟩

/-- In uniform mode corresponding nodes contribute the same but for the values. -/
theorem contribution_eq (hmode : c.mode = .uniform) (hn : n.Revalued (changed n.id) n')
    (h : uniforms'.length = uniforms.length) (shared : Bool) (calls inlines : List Input) :
    c.contribution n' shared uniforms' calls inlines =
      { c.contribution n shared uniforms calls inlines with
        uniforms := c.withParams n' uniforms' } := by
  have hslot := slot_eq (c := c) hn h
  have htexts := paramTexts_eq hmode hn h
  unfold paramTexts at htexts
  rw [hslot] at htexts
  unfold slot at hslot htexts
  simp only [contribution, hn.id, hn.kind, hslot, htexts]
  rfl

/-! ## Generations side by side -/

/-- Two generations have come to the same but for changed parameter values. -/
structure Progress.Revalued (changed : NodeId → Nat → Prop) (done done' : Progress) : Prop where
  rest : done' = { done with uniforms := done'.uniforms }
  aligned : 4 ∣ done.uniforms.length
  uniforms : Shader.Revalued changed done.codes done.uniforms done'.uniforms

theorem Progress.Revalued.names_eq {done done' : Progress} (h : done.Revalued changed done') :
    done'.names = done.names := by
  rw [h.rest]

variable {g g' : Graph}

/-- In uniform mode corresponding nodes contribute alike. -/
theorem contribute_revalued (hmode : c.mode = .uniform) (hg : g.Revalued changed g')
    (length : Nat) (consumed : List NodeId) (position : Nat) (id : NodeId)
    {done done' : Progress} (h : done.Revalued changed done') :
    Agree
      (fun part part' => part' = { part with uniforms := part'.uniforms } ∧
        4 ∣ part.uniforms.length ∧
        Shader.Revalued changed (done.codes ++ [part.code]) part.uniforms part'.uniforms)
      (c.contribute g length consumed position id done.supplies done.uniforms)
      (c.contribute g' length consumed position id done'.supplies done'.uniforms) := by
  have hsupplies : done'.supplies = done.supplies := by rw [h.rest]
  unfold contribute
  rcases hg.node_cases id with ⟨hn, hn'⟩ | ⟨n, n', hn, hn', hsame⟩
  · rw [hn, hn']
    exact .error _
  obtain rfl := Graph.id_of_node? hn
  have hviews : resolveInputs g n done.supplies 0 n.kind.inputs =
      resolveInputs g' n' done.supplies 0 n.kind.inputs :=
    resolveInputs_congr n n' hsame.id hsame.kind (hg.source?_eq n.id) _ 0 _
  simp only [hn, hn', hsame.kind, hsupplies, ← hviews]
  split
  · exact .error _
  cases resolveInputs g n done.supplies 0 n.kind.inputs with
  | error e => exact .error e
  | ok views =>
    obtain ⟨calls, inlines⟩ := views
    refine .ok ?_
    rw [contribution_eq hmode hsame h.uniforms.length]
    exact ⟨rfl, c.dvd_length_withParams n h.aligned,
      revalued_withParams h.uniforms h.aligned hsame rfl rfl⟩

/-- In uniform mode generations go on alike at a node. -/
theorem generateNode_revalued (hmode : c.mode = .uniform) (hg : g.Revalued changed g')
    (length : Nat) (consumed : List NodeId) (position : Nat) (id : NodeId)
    {done done' : Progress} (h : done.Revalued changed done') :
    Agree (Progress.Revalued changed) (c.generateNode g length consumed position id done)
      (c.generateNode g' length consumed position id done') := by
  refine (contribute_revalued hmode hg length consumed position id h).bind ?_
  rintro part part' ⟨hsame, haligned, huniforms⟩
  rw [hsame, h.rest]
  cases hclaim : claim done.names part.code.name part.code.body with
  | none => simpa only [hclaim] using .error _
  | some claimed =>
    obtain ⟨isNew, names⟩ := claimed
    simpa only [hclaim] using .ok ⟨rfl, haligned, huniforms⟩

/-- In uniform mode generations go on alike along an order. -/
theorem generateFrom_revalued (hmode : c.mode = .uniform) (hg : g.Revalued changed g')
    (length : Nat) (consumed : List NodeId) (position : Nat) (rest : List NodeId)
    {done done' : Progress} (h : done.Revalued changed done') :
    Agree (Progress.Revalued changed) (c.generateFrom g length consumed position rest done)
      (c.generateFrom g' length consumed position rest done') := by
  induction rest generalizing position done done' with
  | nil => exact .ok h
  | cons id rest ih =>
    have hnode := generateNode_revalued hmode hg length consumed position id h
    rw [generateFrom, generateFrom, h.names_eq]
    generalize c.generateNode g length consumed position id done = outcome,
      c.generateNode g' length consumed position id done' = outcome' at hnode
    cases hnode with
    | error e => exact .error _
    | ok hnext => exact ih (position + 1) hnext

/-- In uniform mode generations finish alike. -/
theorem finish_revalued (hmode : c.mode = .uniform) (hg : g.Revalued changed g')
    (order : List NodeId) :
    Agree (Progress.Revalued changed) (c.finish g order) (c.finish g' order) := by
  by_cases hempty : order = []
  · rw [hempty]
    exact .error _
  rw [finish_of_ne_nil c g hempty, finish_of_ne_nil c g' hempty, ← hg.consumed_eq]
  have hstart : Progress.Revalued changed {} {} :=
    ⟨rfl, Nat.dvd_zero _, rfl, fun _ h => absurd rfl h⟩
  refine (generateFrom_revalued hmode hg _ _ 0 order hstart).bind fun done done' h => ?_
  rw [h.rest, checkLibrary, checkLibrary]
  cases Shader.conflict? done.library with
  | none => exact .ok ⟨rfl, h.aligned, h.uniforms⟩
  | some name => exact .error _

/-- The source depends on the length of the uniform array only. -/
theorem Progress.Revalued.write_eq {done done' : Progress} (h : done.Revalued changed done') :
    c.write done' = c.write done := by
  have hempty : done'.uniforms ≠ [] ↔ done.uniforms ≠ [] := by
    rw [← List.length_pos_iff, ← List.length_pos_iff, h.uniforms.length]
  have hlibrary : done'.library = done.library := by rw [h.rest]
  have hdefinitions : done'.definitions = done.definitions := by rw [h.rest]
  simp only [write, pieces, hempty, h.uniforms.length, hlibrary, hdefinitions]

/-- The shader is the same but for the uniform array. -/
theorem Progress.Revalued.shaderOf_eq {done done' : Progress} (h : done.Revalued changed done')
    (generation : Nat) :
    c.shaderOf done' generation =
      { c.shaderOf done generation with uniforms := done'.uniforms } := by
  have hcodes : done'.codes = done.codes := by rw [h.rest]
  have hexpression : done'.expression = done.expression := by rw [h.rest]
  simp only [shaderOf, h.write_eq, hcodes, hexpression]

/-- The compiler goes on alike. -/
theorem Progress.Revalued.advance_eq {done done' : Progress} (h : done.Revalued changed done') :
    c.advance done' = c.advance done := by
  rw [advance, advance, h.write_eq, h.names_eq]

end Compiler

/-- In uniform mode assignments to parameters of a graph leave the error of every list of nodes as
it was, or all of the shader but the uniform array, whose layout stays and where only the assigned
parameters change. -/
theorem assignments_keep_text (c : Compiler) (hmode : c.mode = .uniform) (g : Graph)
    (assignments : List Assignment) (order : List NodeId) :
    let g' := g.run (assignments.map Assignment.edit)
    (∀ e c', c.generate g order = (.error e, c') ↔ c.generate g' order = (.error e, c')) ∧
    ∀ shader c', c.generate g order = (.ok shader, c') → ∃ uniforms,
      c.generate g' order = (.ok { shader with uniforms }, c') ∧
      uniforms.length = shader.uniforms.length ∧
      ∀ k, uniforms[k]? ≠ shader.uniforms[k]? → ∃ code ∈ shader.nodes, ∃ slot i,
        code.slot = some slot ∧ k = 4 * slot + i ∧ g.Assigned assignments code.node i := by
  intro g'
  have hagree := Compiler.finish_revalued hmode (g.revalued_run assignments) order
  unfold Compiler.generate
  change Agree _ (c.finish g order) (c.finish g' order) at hagree
  generalize c.finish g order = outcome, c.finish g' order = outcome' at hagree
  cases hagree with
  | error stop => exact ⟨fun e c' => Iff.rfl, by simp⟩
  | @ok done done' h =>
    refine ⟨by simp, ?_⟩
    rintro shader c' ⟨⟩
    refine ⟨done'.uniforms, ?_, h.uniforms.length, h.uniforms.values⟩
    dsimp only
    rw [h.shaderOf_eq, h.advance_eq]

/-- Assignments that make the sphere grow and move the copy that is not shown. -/
def growSphere : List Assignment := [⟨1, "radius", 2⟩, ⟨3, "x", 2⟩]

/-- The uniform array holds the radius of the sphere before and after it grows. -/
theorem uniforms_growSphere :
    let c : Compiler := { dialect := .wgsl, mode := .uniform }
    let g := (Graph.empty .standard).run sphereWithSpare
    (c.generate g [1, 2]).1.toOption.map (·.uniforms) = some [1, 0, 0, 0] ∧
      (c.generate (g.run (growSphere.map Assignment.edit)) [1, 2]).1.toOption.map (·.uniforms) =
        some [2, 0, 0, 0] := by
  rw [Catalog.standard_eq]
  decide +kernel

/-- The sphere grows by another number in the uniform array. -/
theorem assignments_keep_sphere :
    let c : Compiler := { dialect := .wgsl, mode := .uniform }
    let g := (Graph.empty .standard).run sphereWithSpare
    c.mode = .uniform ∧ ∃ shader c' uniforms, c.generate g [1, 2] = (.ok shader, c') ∧
      c.generate (g.run (growSphere.map Assignment.edit)) [1, 2] =
        (.ok { shader with uniforms }, c') ∧
      shader.uniforms = [1, 0, 0, 0] ∧ uniforms = [2, 0, 0, 0] := by
  intro c g
  obtain ⟨hbefore, hafter⟩ := uniforms_growSphere
  obtain ⟨-, hok⟩ := assignments_keep_text c rfl g growSphere [1, 2]
  obtain ⟨shader, c', hgenerate, hvalues⟩ := Compiler.exists_shader hbefore
  obtain ⟨uniforms, hgenerate', -, -⟩ := hok shader c' hgenerate
  rw [hgenerate'] at hafter
  exact ⟨rfl, shader, c', uniforms, hgenerate, hgenerate', hvalues, Option.some.inj hafter⟩

end FieldGraph
