import FieldGraph.Proofs.Graph.Renumber
import FieldGraph.Proofs.Shader.Generate
import FieldGraph.Proofs.Shader.Reuse

/-!
# Shaders of renumbered graphs

Generation finds what feeds a node by number and puts the numbers of nodes beside their code, but
never into it: names, bodies, uniforms and library functions do not depend on them. The code
generated from a renumbered graph is therefore the same, listed under the raised numbers.
-/

namespace FieldGraph

open FieldGraph.Graph

/-- The code of a node with a raised number. -/
def NodeCode.shift (d : Int) (code : NodeCode) : NodeCode := { code with node := code.node + d }

namespace Graph

variable {g : Graph} (d e : Int)

/-- A wire whose source has a raised number. -/
def Wire.shift (w : Wire) : Wire := (w.1, w.2.map (· + d))

theorem WellFormed.wiresFrom_shift (h : g.WellFormed) (id : NodeId) (index : Nat)
    (ports : List PortSpec) :
    (g.shift d e).wiresFrom (id + d) index ports =
      (g.wiresFrom id index ports).map (Wire.shift d) := by
  induction ports generalizing index with
  | nil => rfl
  | cons port rest ih =>
    rw [wiresFrom_cons, wiresFrom_cons, List.map_cons, ih, wire, h.source_shift]
    rfl

theorem WellFormed.consumed_shift (h : g.WellFormed) (order : List NodeId) :
    (g.shift d e).consumed (order.map (· + d)) = (g.consumed order).map (· + d) := by
  rw [consumed, consumed, List.flatMap_map, List.map_flatMap]
  congr 1
  funext id
  rw [node?_shift]
  cases g.node? id with
  | none => rfl
  | some n =>
    simp only [Option.map_some]
    rw [List.map_filterMap]
    congr 1
    funext index
    exact h.source_shift d e id index

/-- What a wire brings it brings after renumbering. -/
theorem Wire.Brings.shift {α : Type} {made : List (NodeId × α)} {w : Wire}
    {input : PortType × Option α} (h : Wire.Brings made w input) :
    Wire.Brings (made.map fun entry => (entry.1 + d, entry.2)) (w.shift d) input := by
  cases h with
  | nothing optional => exact .nothing optional
  | @source port id key a found =>
    have hfound : (made.map fun entry => (entry.1 + d, entry.2)).find? (·.1 == id + d) =
        some (key + d, a) := by
      rw [List.find?_map]
      simp only [Function.comp_def, beq_add, found, Option.map_some]
    exact .source hfound

end Graph

namespace Compiler

variable {g : Graph} (d e : Int)

/-- What generation has produced, under raised numbers. -/
def Progress.shift (done : Progress) : Progress :=
  { done with
    supplies := done.supplies.map fun entry => (entry.1 + d, entry.2)
    codes := done.codes.map (NodeCode.shift d) }

/-- What a node contributes under a raised number. -/
def Contribution.shift (part : Contribution) : Contribution :=
  { part with code := part.code.shift d }

theorem resolveInputs_shift (h : g.WellFormed) {n : Node}
    {supplies : List (NodeId × Shader.Supply)} {index : Nat} {ports : List PortSpec}
    {views : List Input × List Input} (hok : resolveInputs g n supplies index ports = .ok views) :
    resolveInputs (g.shift d e) (n.shift d) (supplies.map fun entry => (entry.1 + d, entry.2))
      index ports = .ok views := by
  obtain ⟨brought, hbrought, rfl⟩ := resolveInputs_eq_ok_iff.mp hok
  refine resolveInputs_eq_ok_iff.mpr ⟨brought, ?_, rfl⟩
  rw [show (n.shift d).id = n.id + d from rfl, h.wiresFrom_shift, List.forall₂_map_left_iff]
  exact hbrought.imp fun _ _ hbrings => hbrings.shift d

theorem contribute_shift (h : g.WellFormed) {c : Compiler} {length position : Nat}
    {consumed : List NodeId} {id : NodeId} {supplies : List (NodeId × Shader.Supply)}
    {uniforms : List Float32} {part : Contribution}
    (hok : c.contribute g length consumed position id supplies uniforms = .ok part) :
    c.contribute (g.shift d e) length (consumed.map (· + d)) position (id + d)
      (supplies.map fun entry => (entry.1 + d, entry.2)) uniforms = .ok (part.shift d) := by
  have hcount : (consumed.map (· + d)).count (id + d) = consumed.count id :=
    List.count_map_of_injective consumed (· + d) (fun _ _ hsum => by simpa using hsum) id
  unfold contribute at hok ⊢
  rw [node?_shift, hcount]
  cases hn : g.node? id with
  | none => simp [hn] at hok
  | some n =>
    have hkind : (n.shift d).kind = n.kind := rfl
    simp only [hn, Option.map_some, hkind] at hok ⊢
    split at hok
    · cases hok
    next hplace =>
      obtain ⟨views, hviews, he⟩ := bind_eq_ok_iff.mp hok
      cases he
      rw [if_neg hplace]
      exact bind_eq_ok_iff.mpr ⟨views, resolveInputs_shift d e h hviews, rfl⟩

theorem record_shift (c : Compiler) (done : Progress) (part : Contribution) (isNew : Bool)
    (names : List (UInt64 × UInt64)) :
    c.record (done.shift d) (part.shift d) isNew names =
      (c.record done part isNew names).shift d := by
  unfold record Progress.shift
  simp only [List.map_cons, List.map_append, List.map_nil]
  rfl

theorem generateNode_shift (h : g.WellFormed) {c : Compiler} {length position : Nat}
    {consumed : List NodeId} {id : NodeId} {before after : Progress}
    (hok : c.generateNode g length consumed position id before = .ok after) :
    c.generateNode (g.shift d e) length (consumed.map (· + d)) position (id + d)
      (before.shift d) = .ok (after.shift d) := by
  obtain ⟨part, isNew, names, hpart, hclaim, rfl⟩ := generateNode_eq_ok_iff.mp hok
  -- Names and bodies are the same, hence so is what is claimed.
  exact generateNode_eq_ok_iff.mpr ⟨part.shift d, isNew, names, contribute_shift d e h hpart, hclaim,
    (record_shift d c before part isNew names).symm⟩

theorem generateFrom_shift (h : g.WellFormed) {c : Compiler} {length position : Nat}
    {consumed rest : List NodeId} {before after : Progress}
    (hok : c.generateFrom g length consumed position rest before = .ok after) :
    c.generateFrom (g.shift d e) length (consumed.map (· + d)) position (rest.map (· + d))
      (before.shift d) = .ok (after.shift d) := by
  induction rest generalizing position before with
  | nil =>
    cases hok
    rfl
  | cons id rest ih =>
    obtain ⟨next, hnode, hlater⟩ := generateFrom_cons_eq_ok_iff.mp hok
    exact generateFrom_cons_eq_ok_iff.mpr
      ⟨next.shift d, generateNode_shift d e h hnode, ih hlater⟩

/-- A renumbered graph is finished with the same code. -/
theorem finish_shift (h : g.WellFormed) {c : Compiler} {order : List NodeId} {done : Progress}
    (hok : c.finish g order = .ok done) :
    c.finish (g.shift d e) (order.map (· + d)) = .ok (done.shift d) := by
  obtain ⟨hne, hfrom, hconflict⟩ := finish_eq_ok_iff.mp hok
  refine finish_eq_ok_iff.mpr ⟨by simpa using hne, ?_, hconflict⟩
  rw [List.length_map, h.consumed_shift]
  exact generateFrom_shift d e h hfrom

end Compiler

end FieldGraph
