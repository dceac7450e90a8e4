import FieldGraph.Proofs.Session.Compile
import FieldGraph.Proofs.Shader.Simulation

/-!
# Generated shaders are correct

For every graph over the standard catalog that edits lead to and validation accepts, every
compiler generates a shader, unless names collide. Read under the usual precedence of the shading
languages, the entry point of the shader computes the distance of the field, bit for bit, and the
one expression in which nodes are put in place means the same as the entry point, whatever the
operators and library functions mean.
-/

namespace FieldGraph

open FieldGraph.Graph Shader

universe u

/-! ## Contributions -/

namespace Compiler

variable {c : Compiler} {g : Graph}

/-- The uniform array grows up to its final state. -/
theorem prefix_of_mem_parts {length position : Nat} {consumed rest : List NodeId}
    {supplies : List (NodeId × Supply)} {uniforms : List Float32} {parts : List Contribution}
    (h : c.partsFrom g length consumed position rest supplies uniforms = .ok parts) :
    uniforms <+: parts.foldl (fun _ part => part.uniforms) uniforms ∧
      ∀ part ∈ parts, part.uniforms <+: parts.foldl (fun _ part => part.uniforms) uniforms := by
  induction rest generalizing position supplies uniforms parts with
  | nil =>
    cases h
    simp
  | cons id rest ih =>
    obtain ⟨part, hpart, hbind⟩ := bind_eq_ok_iff.mp h
    obtain ⟨later, hlater, he⟩ := bind_eq_ok_iff.mp hbind
    cases he
    obtain ⟨n, brought, -, -, -, rfl⟩ := contribute_eq_ok_iff.mp hpart
    obtain ⟨hfirst, hothers⟩ := ih hlater
    rw [List.foldl_cons, List.forall_mem_cons]
    exact ⟨(c.prefix_withParams n uniforms).trans hfirst, hfirst, hothers⟩

/-- The source of a shader defines, after the library, the first code of every name. -/
def Declares (c : Compiler) (shader : Shader) (codes : List NodeCode) : Prop :=
  shader.nodes = codes ∧ ∃ library, shader.source = String.join (c.pieces {
    uniforms := shader.uniforms
    library
    definitions := String.join ((declared codes).map c.definition) })

end Compiler

/-! ## Generation -/

namespace Shader

open Compiler

variable {c : Compiler} {g : Graph}

/-- A graph over the standard catalog that edits lead to is one the simulation is about. -/
theorem ground_of_reached (h : g.Reached .standard) : Ground g := by
  obtain ⟨hwf, hcatalog⟩ := h.wellFormed Catalog.standard_registered
  refine ⟨hwf, h.faultless Catalog.standard_registered, ?_⟩
  intro n hn
  exact Catalog.mem_standard (hcatalog ▸ hwf.kinds n hn)

/-- The library functions that standard nodes call are known by their names. -/
theorem Ground.eq_of_name (hg : Ground g) {rest : List NodeId} {parts : List Contribution}
    (h : List.Forall₂ (c.Contributes g) rest parts) :
    ∀ f ∈ parts.flatMap (·.library), ∀ f' ∈ parts.flatMap (·.library), f.name = f'.name →
      f = f' := by
  have hknown : ∀ f ∈ parts.flatMap (·.library), f ∈ Library.functions := by
    intro f hf
    obtain ⟨part, hpart, hf⟩ := List.mem_flatMap.mp hf
    obtain ⟨n, shared, uniforms, calls, inlines, hn, rfl⟩ := exists_node_of_contributes h hpart
    exact Kind.mem_library n.kind (hg.standard n (List.mem_of_find?_eq_some hn)) f hf
  exact fun f hf f' hf' => Library.eq_of_name f (hknown f hf) f' (hknown f' hf')

/-- A shader is generated from contributions whose names are told apart. -/
theorem exists_generate (hg : Ground g) {order : List NodeId} (hne : order ≠ [])
    {parts : List Contribution} (hparts : c.parts g order = .ok parts)
    (hdist : Distinguished (parts.map (·.code))) :
    ∃ shader c', c.generate g order = (.ok shader, c') ∧
      c.Declares shader (parts.map (·.code)) ∧
      shader.uniforms = parts.foldl (fun _ part => part.uniforms) [] ∧
      shader.expression =
        parts.foldl (fun text part => if part.isOutput then part.inline "p" else text) "" := by
  obtain ⟨after, hafter, hnamed, hcollects⟩ :=
    generateFrom_of_parts {} hparts (named_empty c) hdist
  have hconflict : conflict? after.library = none := by
    rw [hcollects.library]
    exact conflict?_foldl_addFunction.mpr (hg.eq_of_name (contributes_of_partsFrom hparts))
  have hfinish := finish_eq_ok_iff.mpr ⟨hne, hafter, hconflict⟩
  refine ⟨_, _, generate_eq_ok_iff.mpr ⟨after, hfinish, rfl, rfl⟩,
    ⟨hcollects.codes, after.library, ?_⟩, hcollects.uniforms, hcollects.expression⟩
  have hcodes : after.codes = parts.map (·.code) := hcollects.codes
  rw [← hcodes, ← hnamed.definitions]
  exact c.text_write after

/-! ## Relations that nodes preserve -/

section

variable {V : Type u}

/-- The parameters of a standard node are finite. -/
theorem Ground.isFinite (hg : Ground g) {n : Node} (hn : n ∈ g.nodes) :
    ∀ x ∈ n.params, x.isFinite = true := by
  intro x hx
  obtain ⟨i, hi, rfl⟩ := List.getElem_of_mem hx
  obtain ⟨hlength, hrange⟩ := List.forall₂_iff_get.mp (hg.wellFormed.params n hn)
  have hi' : i < n.kind.params.length := hlength ▸ hi
  exact Kind.finite_of_inRange (hg.standard n hn) (List.getElem_mem hi') (hrange i hi' hi)

/-- Nodes preserve what always holds, in every interpretation. -/
theorem Ground.preserved_true (hg : Ground g) (c : Compiler) (final : List Float32)
    (I : Interpretation V) : Preserved c g final I fun _ _ _ => True := by
  intro n hn uniforms _ _
  obtain ⟨xs, hxs⟩ := c.exists_constants n I (hg.isFinite hn) uniforms
  exact ⟨xs, hxs, fun _ _ _ _ => trivial⟩

/-- At single precision nodes preserve that meanings give the values of functions. -/
theorem Ground.preserved_gives (hg : Ground g) (c : Compiler) (final : List Float32) :
    Preserved c g final (.single c.dialect final) Gives := by
  intro n hn uniforms haligned hfinal
  refine ⟨_, c.constants_single n (hg.isFinite hn) haligned hfinal, ?_⟩
  intro inputs hs hserves hrelated q
  have hlength : n.params.length = n.kind.params.length :=
    (hg.wellFormed.params n hn).length_eq.symm
  exact Kind.value_formula (s := ⟨c.dialect, final, q, hs, n.params⟩) (hg.standard n hn) hserves
    hrelated hlength

/-- From an order that can be worked off a shader is generated, and it realises a field in every
relation that its nodes preserve. -/
theorem Ground.exists_realises (hg : Ground g) (c : Compiler) {order : List NodeId}
    (hrun : g.Runnable [] order) {codes : List NodeCode} (hcodes : c.codes g order = .ok codes)
    (hfree : CollisionFree codes) :
    ∃ shader c', c.generate g order = (.ok shader, c') ∧ c.Declares shader codes ∧
      ∀ {V : Type u} {I : Interpretation V} {R : PortType → (Vec3 → Sample) → (V → V) → Prop},
        Preserved c g shader.uniforms I R →
        ∃ field, Field.plain g order = .ok field ∧
          Realises R I codes shader.expression field := by
  obtain ⟨parts, hparts, he⟩ := bind_eq_ok_iff.mp hcodes
  cases he
  have hdist := distinguished_of_collisionFree
    (fun n hn n' hn' => Kind.eq_of_id (hg.standard n hn) (hg.standard n' hn'))
    (contributes_of_partsFrom hparts) hfree
  obtain ⟨shader, c', hok, hdeclares, huniforms, hexpression⟩ :=
    exists_generate hg hrun.ne_nil hparts hdist
  refine ⟨shader, c', hok, hdeclares, ?_⟩
  intro V I R hpres
  have hsame : ∀ a ∈ parts.map (·.code), ∀ b ∈ parts.map (·.code), a.name = b.name →
      a.body = b.body := fun a ha b hb hname => (hdist a ha b hb (by rw [hname])).2
  obtain ⟨init, last, field, rfl, hends, hbuild, hreal⟩ :=
    simulates_nil.run hg hpres hrun rfl (Nat.zero_add _) (dvd_zero 4) hparts
      (huniforms ▸ (prefix_of_mem_parts hparts).2) hsame
  have hlast : shader.expression = last.inline "p" := by
    rw [hexpression, List.foldl_append]
    exact if_pos hends
  exact ⟨field, hbuild, hlast ▸ hreal⟩

end

end Shader

/-! ## The two theorems -/

/-- Whether validation finds nothing that prevents compilation. -/
def Graph.accepted (g : Graph) : Bool :=
  match g.validate with
  | .ok report => report.errors.isEmpty
  | .error _ => false

/-- The nodes of an accepted graph have an order that can be worked off, and all contribute. -/
theorem Shader.Ground.exists_codes {g : Graph} (hg : Ground g) (h : g.accepted = true)
    (c : Compiler) :
    ∃ order codes, g.order = .ok order ∧ g.Runnable [] order ∧ c.codes g order = .ok codes := by
  rw [Graph.accepted, hg.wellFormed.validate_eq] at h
  obtain ⟨order, horder, hrun⟩ := hg.wellFormed.runnable_of_errors (List.isEmpty_iff.mp h)
  obtain ⟨parts, hparts⟩ : ∃ parts, c.parts g order = .ok parts :=
    c.partsFrom_eq_ok hrun (Nat.zero_add order.length) rfl []
  exact ⟨order, parts.map (·.code), horder, hrun, bind_eq_ok_iff.mpr ⟨parts, hparts, rfl⟩⟩

/-- Edits that join a sphere with a copy of it moved to the left, so that the sphere is shared. -/
def spherePair : List Edit :=
  [.addNode "sphere", .addNode "translate", .setParameter 2 "x" (-1.5), .addNode "union",
    .addNode "output", .connect (.outOf 1 0) (.into 2 0), .connect (.outOf 1 0) (.into 3 0),
    .connect (.outOf 2 0) (.into 3 1), .connect (.outOf 3 0) (.into 4 0)]

/-- The pair of spheres is accepted. -/
theorem accepted_spherePair : ((Graph.empty .standard).run spherePair).accepted = true := by
  rw [Catalog.standard_eq]
  decide +kernel

/-- The names of the pair of spheres do not collide, wherever its parameters stand. -/
theorem collisionFree_spherePair :
    ∀ c ∈ [({} : Compiler), { dialect := .wgsl, mode := .uniform }],
      let g := (Graph.empty .standard).run spherePair
      ∀ order ∈ g.order.toOption, ∀ codes ∈ (c.codes g order).toOption, CollisionFree codes := by
  rw [Catalog.standard_eq]
  decide +kernel

/-- The declared functions can all be read, and with the operations of the evaluators and the
numbers of a uniform array the entry point gives the distance of a field at every point. -/
def Shader.Computes (dialect : Dialect) (uniforms : List Float32) (codes : List NodeCode)
    (field : Vec3 → Sample) : Prop :=
  (∀ code ∈ codes, ∃ t, read? code.body = some t) ∧
    ∃ functions entry, link (.single dialect uniforms) (declarations codes) = some functions ∧
      functions.lookup entryPoint = some entry ∧
      ∀ p, entry (some (.vector p)) = some (.scalar (field p).s)

/-- An expression can be read, and among the declared functions it has the value of the entry point
at every point, whatever operators and library functions mean. -/
def Shader.StandsForEntry (codes : List NodeCode) (expression : String) : Prop :=
  ∃ t, read? expression = some t ∧ ∀ {V : Type u} (I : Interpretation V),
    ∃ functions entry, link I (declarations codes) = some functions ∧
      functions.lookup entryPoint = some entry ∧ ∀ p, t.eval I functions p = entry p

/-- For every graph that edits of the empty graph over the standard catalog lead to and validation
accepts, and for every compiler: the nodes have an order, a field is built from it, and unless names
collide a shader is generated whose entry point computes the distance of the field, bit for bit. -/
theorem shader_computes_field (edits : List Edit) (c : Compiler) :
    let g := (Graph.empty .standard).run edits
    g.accepted = true →
    ∃ order codes field, g.order = .ok order ∧ c.codes g order = .ok codes ∧
      Field.plain g order = .ok field ∧
      (CollisionFree codes → ∃ shader c', c.generate g order = (.ok shader, c') ∧
        c.Declares shader codes ∧ Computes c.dialect shader.uniforms codes field) := by
  intro g haccepted
  have hg : Ground g := ground_of_reached ⟨edits, rfl⟩
  obtain ⟨order, codes, horder, hrun, hcodes⟩ := hg.exists_codes haccepted c
  obtain ⟨field, hfield⟩ : ∃ field, Field.plain g order = .ok field :=
    Field.buildFrom_eq_ok (m := Id) hrun rfl 0
  refine ⟨order, codes, field, horder, hcodes, hfield, ?_⟩
  intro hfree
  obtain ⟨shader, c', hok, hdeclares, hall⟩ := hg.exists_realises c hrun hcodes hfree
  obtain ⟨field', hfield', hreal⟩ := hall (hg.preserved_gives c shader.uniforms)
  obtain rfl : field = field' := Except.ok.inj (hfield.symm.trans hfield')
  obtain ⟨functions, entry, hlink, -, hlookup, -, hgives⟩ := hreal.entry
  exact ⟨shader, c', hok, hdeclares, hreal.readable, functions, entry, hlink, hlookup, hgives⟩

/-- The pair of spheres is computed with its parameters written into the source. -/
theorem shader_computes_spherePair :
    let g := (Graph.empty .standard).run spherePair
    let c : Compiler := {}
    g.accepted = true ∧ ∃ order codes field, g.order = .ok order ∧ c.codes g order = .ok codes ∧
      Field.plain g order = .ok field ∧ CollisionFree codes ∧
      ∃ shader c', c.generate g order = (.ok shader, c') ∧
        c.Declares shader codes ∧ Computes c.dialect shader.uniforms codes field := by
  obtain ⟨order, codes, field, horder, hcodes, hfield, h⟩ :=
    shader_computes_field spherePair {} accepted_spherePair
  have hfree : CollisionFree codes := collisionFree_spherePair {} (by simp) order
    (by rw [horder]; rfl) codes (by rw [hcodes]; rfl)
  exact ⟨accepted_spherePair, order, codes, field, horder, hcodes, hfield, hfree, h hfree⟩

/-- For every graph that edits of the empty graph over the standard catalog lead to and validation
accepts, and for every compiler: unless names collide, the one expression in which nodes are put in
place means what the entry point means, in every interpretation of operators and library. -/
theorem inlining_preserves_meaning (edits : List Edit) (c : Compiler) :
    let g := (Graph.empty .standard).run edits
    g.accepted = true →
    ∃ order codes, g.order = .ok order ∧ c.codes g order = .ok codes ∧
      (CollisionFree codes → ∃ shader c', c.generate g order = (.ok shader, c') ∧
        c.Declares shader codes ∧ StandsForEntry.{u} codes shader.expression) := by
  intro g haccepted
  have hg : Ground g := ground_of_reached ⟨edits, rfl⟩
  obtain ⟨order, codes, horder, hrun, hcodes⟩ := hg.exists_codes haccepted c
  refine ⟨order, codes, horder, hcodes, ?_⟩
  intro hfree
  obtain ⟨shader, c', hok, hdeclares, hall⟩ := hg.exists_realises.{u} c hrun hcodes hfree
  -- Reading does not depend on the interpretation, so any one shows that the expression reads.
  obtain ⟨_, -, hsome⟩ := hall (hg.preserved_true c shader.uniforms (V := PUnit) default)
  obtain ⟨_, _, -, -, -, ⟨t, ht, -⟩, -⟩ := hsome.entry
  refine ⟨shader, c', hok, hdeclares, t, read_of_spells ht, ?_⟩
  intro V I
  obtain ⟨_, -, hreal⟩ := hall (hg.preserved_true c shader.uniforms I)
  obtain ⟨functions, entry, hlink, hlater, hlookup, ⟨t', ht', heval⟩, -⟩ := hreal.entry
  obtain rfl : t = t' := Option.some.inj ((read_of_spells ht).symm.trans (read_of_spells ht'))
  exact ⟨functions, entry, hlink, hlookup, heval functions hlater⟩

/-- The pair of spheres in one expression, with its parameters in the uniform array. -/
theorem inlining_preserves_spherePair :
    let g := (Graph.empty .standard).run spherePair
    let c : Compiler := { dialect := .wgsl, mode := .uniform }
    g.accepted = true ∧ ∃ order codes, g.order = .ok order ∧ c.codes g order = .ok codes ∧
      CollisionFree codes ∧ ∃ shader c', c.generate g order = (.ok shader, c') ∧
        c.Declares shader codes ∧ StandsForEntry.{u} codes shader.expression := by
  obtain ⟨order, codes, horder, hcodes, h⟩ :=
    inlining_preserves_meaning.{u} spherePair { dialect := .wgsl, mode := .uniform }
      accepted_spherePair
  have hfree : CollisionFree codes := collisionFree_spherePair
    { dialect := .wgsl, mode := .uniform } (by simp) order (by rw [horder]; rfl) codes
    (by rw [hcodes]; rfl)
  exact ⟨accepted_spherePair, order, codes, horder, hcodes, hfree, h hfree⟩

end FieldGraph
