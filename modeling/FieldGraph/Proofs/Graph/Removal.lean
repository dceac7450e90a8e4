import FieldGraph.Proofs.Graph.Aside
import FieldGraph.Proofs.Kind.Standard

/-!
# Removing nodes

A node is removed with every connection that touches it. The connections go one by one, and each of
them frees its destination in the index; since the index and the connections agree, no entry is left
behind and none is freed that belongs to another connection. What the removal does is said by
`Lost`, which gives every part of the graph afterwards.
-/

namespace FieldGraph.Graph

variable {g : Graph} {id : NodeId}

/-- The connections that touch a node are those that start or end there. -/
theorem mem_touching {c : Connection} :
    c ∈ g.touching id ↔ c ∈ g.conns ∧ (c.src.node = id ∨ c.dst.node = id) := by
  simp [touching]

/-- A graph has lost a node and certain connections, and nothing else. -/
structure Lost (g : Graph) (id : NodeId) (removed : List Connection) (g' : Graph) : Prop where
  /-- The other nodes are as they were. -/
  nodes : g'.nodes = g.nodes.filter (·.id ≠ id)
  /-- The other connections are as they were. -/
  conns : g'.conns = g.conns.filter (· ∉ removed)
  /-- The inputs that the lost connections fed are free. -/
  freed : ∀ c ∈ removed, g'.incoming? c.dst = none
  /-- All other inputs are fed as before. -/
  kept : ∀ dst, (∀ c ∈ removed, c.dst ≠ dst) → g'.incoming? dst = g.incoming? dst
  /-- The output is lost if it was the node. -/
  output : g'.output = if g.output = some id then none else g.output
  catalog : g'.catalog = g.catalog
  lastNode : g'.lastNode = g.lastNode
  lastConn : g'.lastConn = g.lastConn

/-- Without the lost node there is an output exactly if another node was the output. -/
theorem Lost.output_eq_none_iff {removed : List Connection} {g' : Graph}
    (h : g.Lost id removed g') : g'.output = none ↔ g.output = some id ∨ g.output = none := by
  rw [h.output]
  by_cases hout : g.output = some id
  · simp [hout]
  · simp [hout]

namespace WellFormed

/-- The connections that are left are those that do not touch the node, in their order. -/
theorem conns_withoutNode (h : g.WellFormed) (id : NodeId) :
    (g.withoutNode id).conns = g.conns.filter (· ∉ g.touching id) := by
  have hleft : ∀ c, c ∈ (g.withoutNode id).conns ↔
      c ∈ g.conns ∧ c.src.node ≠ id ∧ c.dst.node ≠ id := fun _ => h.mem_conns_withoutNode
  rw [Graph.withoutNode, Graph.foldl_dropConn] at hleft ⊢
  refine List.filter_congr fun c hc => ?_
  have hkept := hleft c
  rw [List.mem_filter, and_congr_right_iff] at hkept
  rw [Bool.eq_iff_iff, hkept hc, decide_eq_true_eq, mem_touching, not_and_or, not_or]
  exact (or_iff_right (not_not.mpr hc)).symm

/-- What feeds an input without a node is what fed it before, unless that touched the node. -/
theorem incoming?_withoutNode (h : g.WellFormed) {dst : Port} {c : Connection} :
    (g.withoutNode id).incoming? dst = some c ↔ g.incoming? dst = some c ∧ c ∉ g.touching id := by
  rw [(h.withoutNode id).directed.incoming?_iff, h.directed.incoming?_iff,
    h.conns_withoutNode, List.mem_filter, decide_eq_true_eq]
  exact and_right_comm

/-- A graph without a node has lost it and the connections that touch it. -/
theorem lost_withoutNode (h : g.WellFormed) (id : NodeId) :
    g.Lost id (g.touching id) (g.withoutNode id) where
  nodes := by
    rw [Graph.withoutNode]
    exact List.filter_congr fun n _ => by rw [Bool.eq_iff_iff]; simp
  conns := h.conns_withoutNode id
  freed c hc := by
    rw [Option.eq_none_iff_forall_ne_some]
    intro d hd
    obtain ⟨hfed, hkept⟩ := h.incoming?_withoutNode.mp hd
    obtain ⟨hmem, hdst⟩ := h.directed.incoming?_iff.mp hfed
    -- Two connections never end at one input, so the one found there would be the lost one.
    rw [h.eq_of_dst_eq hmem (mem_touching.mp hc).1 hdst] at hkept
    exact hkept hc
  kept dst hdst := by
    refine Option.ext fun c => ?_
    rw [h.incoming?_withoutNode]
    refine and_iff_left_of_imp fun hfed hc => ?_
    exact hdst c hc (h.directed.incoming?_iff.mp hfed).2
  output := by rw [Graph.withoutNode]
  catalog := by rw [Graph.withoutNode, Graph.foldl_dropConn]
  lastNode := by rw [Graph.withoutNode, Graph.foldl_dropConn]
  lastConn := by rw [Graph.withoutNode, Graph.foldl_dropConn]

end WellFormed

/-- Over every registered catalog, removing a live node of a graph that edits lead to succeeds. It
answers with the connections that start or end at the node, strictly ascending by number. These and
the node are all that the graph has lost, and no output is left exactly if the node was the output
or there was none. -/
theorem removeNode_cascades (drafts : List Draft) (edits : List Edit) (id : NodeId) :
    let g := (Graph.empty (drafts.foldl Catalog.extend .empty)).run edits
    g.isLive id = true →
    ∃ removed g', g.removeNode id = .ok (removed, g') ∧
      removed.Pairwise (fun c d => c.id < d.id) ∧
      (∀ c, c ∈ removed ↔ c ∈ g.conns ∧ (c.src.node = id ∨ c.dst.node = id)) ∧
      g.Lost id removed g' ∧ (g'.output = none ↔ g.output = some id ∨ g.output = none) := by
  intro g hlive
  have hwf : g.WellFormed := (Reached.wellFormed ⟨drafts, rfl⟩ ⟨edits, rfl⟩).1
  have hlost := hwf.lost_withoutNode id
  exact ⟨g.touching id, g.withoutNode id, removeNode_eq_ok_iff.mpr ⟨hlive, rfl⟩,
    hwf.connsAscending.filter _, fun _ => mem_touching, hlost, hlost.output_eq_none_iff⟩

/-- Edits that feed both inputs of a union from one sphere, and a moved copy of it beside. -/
def fanOut : List Edit :=
  [.addNode "sphere", .addNode "union", .addNode "translate", .addNode "output",
    .connect (.outOf 1 0) (.into 2 0), .connect (.outOf 2 0) (.into 4 0),
    .connect (.outOf 1 0) (.into 3 0), .connect (.outOf 1 0) (.into 2 1)]

/-- The sphere takes three connections along, two of them to the same node, and leaves the one
between the union and the output. -/
theorem removeNode_cascades_fanOut :
    let g := (Graph.empty .standard).run fanOut
    g.isLive 1 = true ∧ (g.conns.filter fun c => c.src.node = 1).map (·.id) = [1, 3, 4] ∧
    ∃ removed g', g.removeNode 1 = .ok (removed, g') ∧
      removed.Pairwise (fun c d => c.id < d.id) ∧
      (∀ c, c ∈ removed ↔ c ∈ g.conns ∧ (c.src.node = 1 ∨ c.dst.node = 1)) ∧
      g.Lost 1 removed g' ∧ (g'.output = none ↔ g.output = some 1 ∨ g.output = none) := by
  have hrun :
      let g := (Graph.empty .standard).run fanOut
      g.isLive 1 = true ∧ (g.conns.filter fun c => c.src.node = 1).map (·.id) = [1, 3, 4] := by
    rw [Catalog.standard_eq]
    decide +kernel
  obtain ⟨drafts, hdrafts⟩ := Catalog.standard_registered
  have hcascades := removeNode_cascades drafts fanOut 1
  rw [← hdrafts] at hcascades
  exact ⟨hrun.1, hrun.2, hcascades hrun.1⟩

end FieldGraph.Graph
