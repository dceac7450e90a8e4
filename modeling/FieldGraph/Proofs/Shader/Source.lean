import FieldGraph.Proofs.Shader.Correctness
import FieldGraph.Proofs.Shader.Reuse

/-!
# The source of a shader

The source declares the uniform array, then the library functions that the kinds of the nodes
bring, each once, and then the node functions. Nodes with equal code share a function, so a function
is declared where the first node with its name stands. All that this node calls belongs to nodes
before it, and is therefore declared before it.
-/

namespace FieldGraph

open FieldGraph.Graph Shader

/-- A kind of a node of an order brings a library function. -/
def Graph.Includes (g : Graph) (order : List NodeId) (f : Shader.Function) : Prop :=
  ∃ id ∈ order, ∃ n, g.node? id = some n ∧ f ∈ n.kind.library

/-- An input as a body uses it, given the codes of earlier nodes: a connected input calls the
function of its source, another is left open. -/
inductive Graph.Wire.Calls (before : List NodeCode) : Wire → Input → Prop where
  | nothing (port : PortSpec) : Calls before (port, none) ⟨port.type, none⟩
  | source (port : PortSpec) {f : NodeCode} (earlier : f ∈ before) :
      Calls before (port, some f.node) ⟨port.type, some fun q => f.name ++ "(" ++ q ++ ")"⟩

/-- The source of a shader for an order is made of library functions and of node functions, given
by codes. -/
structure Compiler.Arranged (c : Compiler) (g : Graph) (order : List NodeId) (shader : Shader)
    (library : List Shader.Function) (functions : List NodeCode) : Prop where
  /-- The uniform array comes first, then the library, then the node functions. -/
  source : shader.source =
    (if c.mode = .uniform ∧ shader.uniforms ≠ [] then
      c.uniformDeclaration (shader.uniforms.length / 4) else "") ++
    String.join (library.map fun f => (if c.dialect = .wgsl then f.wgsl else f.glsl) ++ "\n\n") ++
    String.join (functions.map fun f => c.functionDefinition f.name f.type f.body)
  /-- No library function is written twice, nor two of one name. -/
  libraryNames : (library.map (·.name)).Nodup
  /-- The library functions written are those that kinds in the order bring. -/
  libraryMembers : ∀ f, f ∈ library ↔ g.Includes order f
  /-- There is one code for every node of the order. -/
  nodes : shader.nodes.map (·.node) = order
  /-- No two node functions have one name. -/
  names : (functions.map (·.name)).Nodup
  /-- Node functions are those of nodes. -/
  bearers : ∀ f ∈ functions, f ∈ shader.nodes
  /-- Every node is declared once, under its name and with its type and body. -/
  declared : ∀ code ∈ shader.nodes,
    (functions.map fun f => (f.name, f.type, f.body)).count (code.name, code.type, code.body) = 1
  /-- The body of a node calls, for every connected input, the function of the source of that input,
  which is a node before it. -/
  upstream : ∀ before code after, shader.nodes = before ++ code :: after →
    ∃ n inputs params, g.node? code.node = some n ∧ code.body = n.kind.template "p" inputs params ∧
      List.Forall₂ (Wire.Calls before) (g.wires n) inputs
  /-- A function stands strictly behind those of all nodes before the first node with its name. -/
  ordered : ∀ before code after, shader.nodes = before ++ code :: after →
    code.name ∉ before.map (·.name) → ∀ f ∈ before,
      (functions.map (·.name)).idxOf f.name < (functions.map (·.name)).idxOf code.name

/-! ## Functions of nodes -/

namespace Compiler

variable {c : Compiler} {g : Graph} {order : List NodeId} {parts : List Contribution}

/-- There is one code for every node. -/
theorem nodes_of_contributes (h : List.Forall₂ (c.Contributes g) order parts) :
    (parts.map (·.code)).map (·.node) = order := by
  induction h with
  | nil => rfl
  | @cons id _ _ _ hpart _ ih =>
    obtain ⟨n, shared, uniforms, calls, inlines, hn, rfl⟩ := hpart
    obtain rfl := id_of_node? hn
    rw [List.map_cons, List.map_cons, ih]
    rfl

end Compiler

/-! ## Graphs over registered catalogs -/

end FieldGraph
