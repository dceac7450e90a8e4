import FieldGraph.Proofs.Graph.Wiring

/-!
# What validation reports

What there is to report of a graph is said here without the validation: required inputs of nodes
that feed the output where no connection ends, and nodes from which no path leads to the output.
Validation reports exactly that, each finding once and in the order of nodes and inputs, and it
fails exactly with the findings that prevent compilation.
-/

namespace FieldGraph

open Relation

/-- One finding comes before another: it is about an earlier node, or about an earlier input of the
same node. -/
def Diagnostic.Before (a b : Diagnostic) : Prop :=
  a.node < b.node ∨ a.node = b.node ∧ a.input < b.input

namespace Graph

/-- There is something to report of a graph that ends in an output node. -/
inductive Finds (g : Graph) (output : Node) : Diagnostic → Prop where
  /-- The node feeds the output, and no connection ends at a required input of it. -/
  | unconnected {n : Node} {i : Nat} {port : PortSpec} (live : n ∈ g.nodes)
      (path : ReflTransGen g.Feeds n.id output.id) (input : n.kind.inputs[i]? = some port)
      (required : port.optional = false) (unfed : ∀ c ∈ g.conns, c.dst ≠ .into n.id i) :
      Finds g output ⟨.error, n.id, i, .unconnectedInput,
        n.kind.id ++ " input " ++ Text.quote port.name ++ " not connected"⟩
  /-- No path leads from the node to the output. -/
  | unreachable {n : Node} (live : n ∈ g.nodes) (inner : n.kind.isOutput = false)
      (apart : ¬ ReflTransGen g.Feeds n.id output.id) :
      Finds g output ⟨.warning, n.id, -1, .unreachableNode,
        n.kind.id ++ " node does not feed the output and is ignored"⟩

variable {g : Graph}

/-! ## Membership -/

/-- A graph with an output node is reported node by node. -/
theorem WellFormed.diagnostics_report (h : g.WellFormed) {root : NodeId}
    (hroot : g.output = some root) : g.report.diagnostics = g.nodes.flatMap fun n =>
      if n.id ∈ g.ancestors root then g.unconnectedInputs n else [unreachableFinding n] := by
  rcases h.outputs_cases with ⟨-, hnone⟩ | ⟨root', rest, ho, hroot'⟩
  · cases hnone.symm.trans hroot
  · obtain rfl := Option.some.inj (hroot.symm.trans hroot')
    simp only [report, ho]
    exact List.flatMap_congr fun n hn => h.nodeFindings_eq hroot hn

/-- Everything there is to find is reported, and nothing else. -/
theorem WellFormed.mem_diagnostics_iff (h : g.WellFormed) {output : Node} (hlive : output ∈ g.nodes)
    (hends : output.kind.isOutput = true) {d : Diagnostic} :
    d ∈ g.report.diagnostics ↔ g.Finds output d := by
  have hroot := h.output_eq hlive hends
  rw [h.diagnostics_report hroot, List.mem_flatMap]
  constructor
  · rintro ⟨n, hn, hd⟩
    by_cases hpath : n.id ∈ g.ancestors output.id
    · rw [if_pos hpath] at hd
      obtain ⟨i, port, hi, hrequired, hfree, rfl⟩ := mem_unconnectedInputs.mp hd
      exact .unconnected hn (h.directed.mem_ancestors.mp hpath) hi hrequired
        (h.feed?_eq_none_iff.mp hfree)
    · rw [if_neg hpath] at hd
      obtain rfl := List.mem_singleton.mp hd
      have hapart : ¬ ReflTransGen g.Feeds n.id output.id := fun path =>
        hpath (h.directed.mem_ancestors.mpr path)
      refine .unreachable hn ?_ hapart
      cases hout : n.kind.isOutput with
      | false => rfl
      | true =>
        rw [h.id_eq_output hn hout hroot] at hapart
        exact absurd .refl hapart
  · intro hfinds
    cases hfinds with
    | @unconnected n i port hn path hi hrequired hunfed =>
      refine ⟨n, hn, ?_⟩
      rw [if_pos (h.directed.mem_ancestors.mpr path)]
      exact mem_unconnectedInputs.mpr
        ⟨i, port, hi, hrequired, h.feed?_eq_none_iff.mpr hunfed, rfl⟩
    | @unreachable n hn hinner hapart =>
      refine ⟨n, hn, ?_⟩
      rw [if_neg fun hpath => hapart (h.directed.mem_ancestors.mp hpath)]
      exact List.mem_singleton.mpr rfl

/-! ## Order -/

/-- Findings about unconnected inputs are about the node. -/
theorem node_of_mem_unconnectedInputs {n : Node} {d : Diagnostic}
    (h : d ∈ g.unconnectedInputs n) : d.node = n.id := by
  obtain ⟨i, port, -, -, -, rfl⟩ := mem_unconnectedInputs.mp h
  rfl

/-- The unconnected inputs of a node are reported in the order of inputs. -/
theorem pairwise_unconnectedInputs (g : Graph) (n : Node) :
    (g.unconnectedInputs n).Pairwise Diagnostic.Before := by
  have hindices : n.kind.inputs.zipIdx.Pairwise fun a b => a.2 < b.2 := by
    rw [← List.pairwise_map, List.zipIdx_map_snd]
    exact List.pairwise_lt_range'
  refine List.pairwise_filterMap.mpr (hindices.imp ?_)
  intro a b hlt d hd d' hd'
  obtain ⟨-, ⟨⟩⟩ := Option.ite_none_right_eq_some.mp hd
  obtain ⟨-, ⟨⟩⟩ := Option.ite_none_right_eq_some.mp hd'
  exact Or.inr ⟨rfl, Int.ofNat_lt.mpr hlt⟩

/-- Findings are reported in the order of nodes and inputs. -/
theorem WellFormed.pairwise_diagnostics (h : g.WellFormed) :
    g.report.diagnostics.Pairwise Diagnostic.Before := by
  rcases h.outputs_cases with ⟨ho, -⟩ | ⟨root, -, -, hroot⟩
  · simp [report, ho]
  · rw [h.diagnostics_report hroot, List.pairwise_flatMap]
    -- The findings about a node carry its number, so between nodes the numbers decide.
    have hnode : ∀ n d, d ∈ (if n.id ∈ g.ancestors root then g.unconnectedInputs n
        else [unreachableFinding n]) → d.node = n.id := by
      intro n d hd
      split at hd
      · exact node_of_mem_unconnectedInputs hd
      · rw [List.mem_singleton.mp hd]
        rfl
    refine ⟨fun n _ => ?_, h.nodesAscending.imp ?_⟩
    · split
      · exact g.pairwise_unconnectedInputs n
      · exact List.pairwise_singleton ..
    · intro n n' hlt d hd d' hd'
      refine Or.inl ?_
      rw [hnode n d hd, hnode n' d' hd']
      exact hlt

end Graph

/-! ## Failure -/

namespace Report

variable (r : Report)

/-- A validation fails unless nothing prevents compilation. -/
theorem failure?_eq_none_iff : r.failure? = none ↔ ∀ d ∈ r.diagnostics, d.severity ≠ .error := by
  have herrors : r.errors = [] ↔ ∀ d ∈ r.diagnostics, d.severity ≠ .error := by
    simp [errors, List.filter_eq_nil_iff]
  rw [← herrors, failure?]
  cases r.errors <;> simp

/-- A validation fails with the findings that prevent compilation. -/
theorem errors_of_failure? {found : List Diagnostic} (h : r.failure? = some found) :
    found = r.errors := by
  rw [failure?] at h
  cases herrors : r.errors with
  | nil => simp [herrors] at h
  | cons first rest =>
    rw [herrors] at h
    exact (Option.some.inj h).symm

/-- A report says what there is to find in a graph. -/
structure Exact (g : Graph) : Prop where
  /-- A graph without output nodes lacks the output and nothing else. -/
  bare : (∀ n ∈ g.nodes, n.kind.isOutput = false) →
    r.diagnostics = [⟨.error, 0, -1, .noOutput, "graph has no output node"⟩]
  /-- In any other graph it is everything there is to find, and nothing else. -/
  complete : ∀ output ∈ g.nodes, output.kind.isOutput = true →
    ∀ d, d ∈ r.diagnostics ↔ g.Finds output d
  /-- Nothing is reported twice or out of order. -/
  ordered : r.diagnostics.Pairwise Diagnostic.Before
  passes : r.failure? = none ↔ ∀ d ∈ r.diagnostics, d.severity ≠ .error
  /-- What prevents compilation makes the validation fail, in the same order. -/
  fails : ∀ found, r.failure? = some found → found.Sublist r.diagnostics ∧
    ∀ d, d ∈ found ↔ d ∈ r.diagnostics ∧ d.severity = .error

end Report

/-- Over every registered catalog, validation of every graph that edits lead to gives a report, and
the report is exact. -/
theorem Graph.validate_exact (drafts : List Draft) (edits : List Edit) :
    let g := (Graph.empty (drafts.foldl Catalog.extend .empty)).run edits
    ∃ r, g.validate = .ok r ∧ r.Exact g := by
  intro g
  have hwf : g.WellFormed := (Reached.wellFormed ⟨drafts, rfl⟩ ⟨edits, rfl⟩).1
  refine ⟨g.report, hwf.validate_eq, ?_, ?_, hwf.pairwise_diagnostics,
    g.report.failure?_eq_none_iff, ?_⟩
  · intro hbare
    rcases hwf.outputs_cases with ⟨ho, -⟩ | ⟨root, -, -, hroot⟩
    · simp only [report, ho]
      rfl
    · obtain ⟨n, hn, -, hout⟩ := (hwf.output root).mp hroot
      cases (hbare n hn).symm.trans hout
  · intro output hlive hends d
    exact hwf.mem_diagnostics_iff hlive hends
  · intro found hfound
    rw [g.report.errors_of_failure? hfound]
    refine ⟨List.filter_sublist, fun d => ?_⟩
    rw [Report.errors, List.mem_filter, beq_iff_eq]

end FieldGraph
