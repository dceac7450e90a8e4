import FieldGraph.Proofs.Field.Build
import FieldGraph.Proofs.Graph.Aside
import FieldGraph.Proofs.Graph.Rewire
import FieldGraph.Proofs.Kind.Standard
import FieldGraph.Proofs.Shader.Generate

/-!
# Shaders and fields of graphs that show the same

A shader and a field are made of what a graph shows at the nodes of an order, and of nothing else.
Graphs that show the same there yield the same, errors included. Hence nodes that do not feed the
output have no influence on what is compiled, whatever is done to them, and neither has the order
in which connections were made.
-/

namespace FieldGraph

open FieldGraph.Graph

variable {g g' : Graph}

/-! ## Shaders -/

namespace Compiler

/-- The views of inputs depend on number and kind of the node and on their sources. -/
theorem resolveInputs_congr (n n' : Node) (hid : n'.id = n.id) (hkind : n'.kind = n.kind)
    (hsource : ∀ index, g.source? n.id index = g'.source? n.id index)
    (supplies : List (NodeId × Shader.Supply)) (index : Nat) (ports : List PortSpec) :
    resolveInputs g n supplies index ports = resolveInputs g' n' supplies index ports := by
  induction ports generalizing index with
  | nil => rfl
  | cons port rest ih =>
    rw [resolveInputs, resolveInputs, ih, hid, hkind]
    rcases incoming?_cases (hsource index) with ⟨hin, hin'⟩ | ⟨c, c', hin, hin', hsame⟩
    · rw [hin, hin']
    · simp only [hin, hin', hsame]

/-- A node contributes what its graph shows of it. -/
theorem contribute_congr (c : Compiler) {id : NodeId} (h : SameAt g g' id) (length : Nat)
    (consumed : List NodeId) (position : Nat) (supplies : List (NodeId × Shader.Supply))
    (uniforms : List Float32) :
    c.contribute g length consumed position id supplies uniforms =
      c.contribute g' length consumed position id supplies uniforms := by
  rcases h.node_cases with ⟨hn, hn'⟩ | ⟨n, place, hn, hn'⟩
  · simp only [contribute, hn, hn']
  · obtain rfl := id_of_node? hn
    have hviews : resolveInputs g n supplies 0 n.kind.inputs =
        resolveInputs g' { n with position := place } supplies 0 n.kind.inputs :=
      resolveInputs_congr n { n with position := place } rfl rfl h.source supplies 0 n.kind.inputs
    simp only [contribute, hn, hn', hviews]
    rfl

/-- The code of nodes depends on what the graph shows at them. -/
theorem generateFrom_congr (c : Compiler) {rest : List NodeId}
    (h : ∀ id ∈ rest, SameAt g g' id) (length : Nat) (consumed : List NodeId) (position : Nat)
    (done : Progress) :
    c.generateFrom g length consumed position rest done =
      c.generateFrom g' length consumed position rest done := by
  induction rest generalizing position done with
  | nil => rfl
  | cons id rest ih =>
    obtain ⟨hfirst, hrest⟩ := List.forall_mem_cons.mp h
    simp only [generateFrom, generateNode, c.contribute_congr hfirst, ih hrest]

/-- Graphs that show the same at the nodes of an order have one shader or one error. -/
theorem generate_congr (c : Compiler) {order : List NodeId} (h : ∀ id ∈ order, SameAt g g' id) :
    c.generate g order = c.generate g' order := by
  have hconsumed : g.consumed order = g'.consumed order :=
    consumed_congr (fun id hid => (h id hid).kind) fun id hid => (h id hid).source
  have hfinish : c.finish g order = c.finish g' order := by
    simp only [finish, hconsumed, c.clear.generateFrom_congr h]
  rw [generate, generate, hfinish]

end Compiler

/-! ## Fields -/

namespace Field

variable {m : Type → Type}

/-- What feeds inputs depends on number and kind of the node and on their sources. -/
theorem resolve_congr (n n' : Node) (hid : n'.id = n.id) (hkind : n'.kind = n.kind)
    (hsource : ∀ index, g.source? n.id index = g'.source? n.id index)
    (built : List (NodeId × Sampler m)) (index : Nat) (ports : List PortSpec) :
    resolve g n built index ports = resolve g' n' built index ports := by
  induction ports generalizing index with
  | nil => rfl
  | cons port rest ih =>
    rw [resolve, resolve, ih, hid, hkind]
    rcases incoming?_cases (hsource index) with ⟨hin, hin'⟩ | ⟨c, c', hin, hin', hsame⟩
    · rw [hin, hin']
    · simp only [hin, hin', hsame]

variable [Monad m]

/-- The functions of nodes depend on what the graph shows at them. -/
theorem buildFrom_congr (share : Nat → Sampler m → Sampler m) {rest : List NodeId}
    (h : ∀ id ∈ rest, SameAt g g' id) (consumed : List NodeId)
    (built : List (NodeId × Sampler m)) (position : Nat) :
    buildFrom share g consumed built position rest =
      buildFrom share g' consumed built position rest := by
  induction rest generalizing built position with
  | nil => rfl
  | cons id rest ih =>
    obtain ⟨hfirst, hrest⟩ := List.forall_mem_cons.mp h
    rw [buildFrom, buildFrom]
    rcases hfirst.node_cases with ⟨hn, hn'⟩ | ⟨n, place, hn, hn'⟩
    · simp only [hn, hn']
    · obtain rfl := id_of_node? hn
      have hinputs : resolve g n built 0 n.kind.inputs =
          resolve g' { n with position := place } built 0 n.kind.inputs :=
        resolve_congr n { n with position := place } rfl rfl hfirst.source built 0 n.kind.inputs
      simp only [hn, hn', hinputs, ih hrest]
      rfl

/-- Graphs that show the same at the nodes of an order have one field or one error. -/
theorem of_congr {order : List NodeId} (h : ∀ id ∈ order, SameAt g g' id) (bounds : Box) :
    Field.of g order bounds = Field.of g' order bounds := by
  have hconsumed : g.consumed order = g'.consumed order :=
    consumed_congr (fun id hid => (h id hid).kind) fun id hid => (h id hid).source
  simp only [Field.of, build, hconsumed, buildFrom_congr remember h]

end Field

/-! ## Nodes that do not feed the output -/

/-- Over every registered catalog, edits aside of the output of a graph that edits led to keep the
order, the shader or error of every compiler, and the field. -/
theorem aside_edits_keep_compilation (drafts : List Draft) (edits later : List Edit) :
    let g := (Graph.empty (drafts.foldl Catalog.extend .empty)).run edits
    g.output ≠ none → g.StaysAside later →
    ∃ order, g.order = .ok order ∧ (g.run later).order = .ok order ∧
      (∀ c : Compiler, c.generate (g.run later) order = c.generate g order) ∧
      ∀ bounds, Field.of (g.run later) order bounds = Field.of g order bounds := by
  intro g hout haside
  have hcat : (drafts.foldl Catalog.extend .empty).Registered := ⟨drafts, rfl⟩
  obtain ⟨hwf, hcatalog⟩ := Reached.wellFormed hcat (g := g) ⟨edits, rfl⟩
  have hwf' : (g.run later).WellFormed :=
    (Reached.wellFormed hcat ⟨edits ++ later, (List.foldl_append ..).symm⟩).1
  obtain ⟨root, hroot⟩ := Option.ne_none_iff_exists'.mp hout
  have hsame : SameUpstream g (g.run later) :=
    haside.sameUpstream (by rw [hcatalog]; exact hcat.faultless) hwf hroot
  obtain ⟨order, horder, hev⟩ := hwf.order_eq_ok hroot
  have hat : ∀ id ∈ order, SameAt (g.run later) g id := fun id hid =>
    (hsame.same id ⟨root, hroot, (hev.mem_iff id).mp hid⟩).symm
  exact ⟨order, horder, (hsame.order_eq hwf hwf').symm.trans horder,
    fun c => c.generate_congr hat, fun bounds => Field.of_congr hat bounds⟩

/-- Edits that show a sphere and move a copy of it that is not shown. -/
def sphereWithSpare : List Edit :=
  [.addNode "sphere", .addNode "output", .addNode "translate", .connect (.outOf 1 0) (.into 2 0),
    .connect (.outOf 1 0) (.into 3 0)]

/-- Edits that move the copy, put a cube in its place and take it away. -/
def spareEdits : List Edit :=
  [.setParameter 3 "x" 2, .disconnect 2, .addNode "cube", .connect (.outOf 4 0) (.into 3 0),
    .setPosition 1 {}, .removeNode 3]

/-- The edits of the copy are aside. -/
theorem staysAside_spareEdits :
    ((Graph.empty .standard).run sphereWithSpare).StaysAside spareEdits := by
  have hspare : ∀ k < 6,
      ¬ ((Graph.empty .standard).run (sphereWithSpare ++ spareEdits.take k)).FeedsOutput 3 := by
    intro k hk
    refine (Reached.wellFormed Catalog.standard_registered ⟨_, rfl⟩).1.not_feedsOutput ?_
    revert k
    rw [Catalog.standard_eq]
    decide +kernel
  have hend : (((Graph.empty .standard).run (sphereWithSpare ++ spareEdits.take 1)).conn? 2).map
      (·.dst.node) = some 3 := by
    rw [Catalog.standard_eq]
    decide +kernel
  rw [spareEdits] at hspare hend ⊢
  simp only [staysAside_run_cons, List.append_assoc, List.singleton_append]
  simp only [List.take_succ_cons, List.take_zero] at hend
  refine ⟨hspare 0 (by decide), ?_, trivial, hspare 3 (by decide), trivial, hspare 5 (by decide),
    trivial⟩
  intro c hc
  rw [hc, Option.map_some, Option.some.injEq] at hend
  rw [hend]
  exact hspare 1 (by decide)

/-- The sphere is compiled as before, whatever becomes of the copy. -/
theorem aside_edits_keep_sphere :
    let g := (Graph.empty .standard).run sphereWithSpare
    g.output ≠ none ∧ g.StaysAside spareEdits ∧
    ∃ order, g.order = .ok order ∧ (g.run spareEdits).order = .ok order ∧
      (∀ c : Compiler, c.generate (g.run spareEdits) order = c.generate g order) ∧
      ∀ bounds, Field.of (g.run spareEdits) order bounds = Field.of g order bounds := by
  have hout : ((Graph.empty .standard).run sphereWithSpare).output ≠ none := by
    rw [Catalog.standard_eq]
    decide +kernel
  exact ⟨hout, staysAside_spareEdits,
    aside_edits_keep_compilation _ sphereWithSpare spareEdits hout staysAside_spareEdits⟩

/-! ## The order of connections -/

/-- Over every registered catalog, connections that a graph accepts in one order it accepts in every
order. The graphs then differ in the numbers of the new connections only, and they have the same
report, the same order and, over every list of nodes, the same shader or error. -/
theorem connection_order_irrelevant (drafts : List Draft) (edits : List Edit)
    (links links' : List (Port × Port)) (g₁ : Graph) :
    let g := (Graph.empty (drafts.foldl Catalog.extend .empty)).run edits
    g.connectAll links = .ok g₁ → links.Perm links' →
    ∃ g₂ σ, g.connectAll links' = .ok g₂ ∧ Relabelled σ g₁ g₂ ∧ (∀ id ≤ g.lastConn, σ id = id) ∧
      g₁.validate = g₂.validate ∧ g₁.order = g₂.order ∧
      ∀ (c : Compiler) (order : List NodeId), c.generate g₁ order = c.generate g₂ order := by
  intro g hok hperm
  have hwf : g.WellFormed := (Reached.wellFormed ⟨drafts, rfl⟩ ⟨edits, rfl⟩).1
  obtain ⟨g₂, σ, hok', hsame, hfixed⟩ := hwf.connectAll_perm hperm hok
  have hwf₁ : g₁.WellFormed := hwf.connectAll hok
  have hwf₂ : g₂.WellFormed := hwf.connectAll hok'
  have hat : ∀ id, SameAt g₁ g₂ id := hsame.sameAt hwf₁ hwf₂
  have hupstream : SameUpstream g₁ g₂ := ⟨hsame.output.symm, fun id _ => hat id⟩
  exact ⟨g₂, σ, hok', hsame, fun id hid => hfixed id (Or.inl hid),
    hwf₁.validate_congr hwf₂ hsame.nodes.symm fun id => (hat id).source,
    hupstream.order_eq hwf₁ hwf₂, fun c order => c.generate_congr fun id _ => hat id⟩

/-- The nodes of a sphere joined with a moved copy of it. -/
def spherePairNodes : List Edit :=
  [.addNode "sphere", .addNode "translate", .addNode "union", .addNode "output"]

/-- Their connections. -/
def spherePairLinks : List (Port × Port) :=
  [(.outOf 1 0, .into 2 0), (.outOf 1 0, .into 3 0), (.outOf 2 0, .into 3 1),
    (.outOf 3 0, .into 4 0)]

/-- The sphere and its copy can be connected backwards from the output. -/
theorem connection_order_spherePair :
    let g := (Graph.empty .standard).run spherePairNodes
    ∃ g₁, g.connectAll spherePairLinks = .ok g₁ ∧
    spherePairLinks.Perm spherePairLinks.reverse ∧
    ∃ g₂ σ, g.connectAll spherePairLinks.reverse = .ok g₂ ∧ Relabelled σ g₁ g₂ ∧
      (∀ id ≤ g.lastConn, σ id = id) ∧ g₁.validate = g₂.validate ∧ g₁.order = g₂.order ∧
      ∀ (c : Compiler) (order : List NodeId), c.generate g₁ order = c.generate g₂ order := by
  intro g
  have hok : (g.connectAll spherePairLinks).isOk = true := by
    simp only [g, Catalog.standard_eq]
    decide +kernel
  have hperm : spherePairLinks.Perm spherePairLinks.reverse := (List.reverse_perm _).symm
  cases hlinked : g.connectAll spherePairLinks with
  | error e =>
    rw [hlinked] at hok
    cases hok
  | ok g₁ => exact ⟨g₁, rfl, hperm, connection_order_irrelevant _ _ _ _ g₁ hlinked hperm⟩

end FieldGraph
