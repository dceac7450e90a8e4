import FieldGraph.Graph.Basic

/-!
# Validation

A graph compiles when it has one output node and every required input of the nodes feeding it
is connected. Validation reports each violation, and as a warning each node that does not feed
the output. Findings come in the order of nodes and inputs. Nothing is assumed of the graph:
where an edit could never have led, a connection may come from a node that does not exist, and
then validation breaks down instead of reporting.
-/

namespace FieldGraph

/-- The findings of a validation. -/
structure Report where
  diagnostics : List Diagnostic
  deriving DecidableEq, Repr

namespace Report

/-- The findings that prevent compilation. -/
def errors (r : Report) : List Diagnostic := r.diagnostics.filter (·.severity == .error)

/-- The findings worth knowing. -/
def warnings (r : Report) : List Diagnostic := r.diagnostics.filter (·.severity == .warning)

/-- What a failed validation fails with, if anything prevents compilation. -/
def failure? (r : Report) : Option (List Diagnostic) :=
  match r.errors with
  | [] => none
  | findings => some findings

end Report

/-- A graph that no sequence of edits produces made a traversal impossible. -/
inductive Breakdown where
  /-- A connection comes from a node that does not exist. -/
  | missingNode
  /-- A node left over by sorting has no predecessor left over. -/
  | stuckWalk
  deriving DecidableEq, Repr

/-- The text of a breakdown. -/
def Breakdown.message : Breakdown → String
  | missingNode => "runtime error: invalid memory address or nil pointer dereference"
  | stuckWalk => "unreachable: remaining node without remaining predecessor"

namespace Graph

/-- The connection that feeds each input of a node, in the order of inputs. -/
def inputConns (g : Graph) (node : Node) : List (Option Connection) :=
  (List.range node.kind.inputs.length).map fun (index : Nat) => g.incoming? (.into node.id index)

/-- The nodes that feed the inputs of a node. -/
def suppliers (g : Graph) (node : Node) : List NodeId :=
  (g.inputConns node).filterMap (·.map (·.src.node))

/-- Every node paired with each node that feeds it. -/
def supplyEdges (g : Graph) : List (NodeId × NodeId) :=
  g.nodes.flatMap fun node => (g.suppliers node).map fun supplier => (node.id, supplier)

/-- The nodes that feed a node directly or through others, itself included. -/
def ancestors (g : Graph) (root : NodeId) : List NodeId := search g.supplyEdges [root] []

/-- Whether something that feeds a node does not exist. -/
def hasMissingAncestor (g : Graph) (root : NodeId) : Bool :=
  (g.ancestors root).any fun id => !g.isLive id

/-- The numbers of the output nodes in ascending order. -/
def outputs (g : Graph) : List NodeId := (g.nodes.filter (·.kind.isOutput)).map (·.id)

/-- No output node at all. -/
def noOutputFinding : Diagnostic :=
  ⟨.error, 0, -1, .noOutput, Cause.noOutput.text⟩

/-- An output node besides the first. -/
def extraOutputFinding (first id : NodeId) : Diagnostic :=
  ⟨.error, id, -1, .multipleOutputs, "output node in addition to node " ++ toString first⟩

/-- A node that does not feed the output. -/
def unreachableFinding (node : Node) : Diagnostic :=
  ⟨.warning, node.id, -1, .unreachableNode,
    node.kind.id ++ " node does not feed the output and is ignored"⟩

/-- A required input that nothing feeds. -/
def unconnectedFinding (node : Node) (index : Nat) (port : PortSpec) : Diagnostic :=
  ⟨.error, node.id, index, .unconnectedInput,
    node.kind.id ++ " input " ++ Text.quote port.name ++ " not connected"⟩

/-- The required inputs of a node that nothing feeds. -/
def unconnectedInputs (g : Graph) (node : Node) : List Diagnostic :=
  node.kind.inputs.zipIdx.filterMap fun (port, index) =>
    if !port.optional && (g.feed? (.into node.id index)).isNone then
      some (unconnectedFinding node index port)
    else none

/-- The findings about one node, given the first output and what feeds it. -/
def nodeFindings (g : Graph) (first : NodeId) (reached : List NodeId) (node : Node) :
    List Diagnostic :=
  (if node.kind.isOutput && node.id != first then [extraOutputFinding first node.id] else []) ++
  (if node.id ∈ reached then g.unconnectedInputs node
  else if node.kind.isOutput then [] else [unreachableFinding node])

/-- All findings about a graph in which every ancestor of the first output exists. -/
def report (g : Graph) : Report :=
  match g.outputs with
  | [] => ⟨[noOutputFinding]⟩
  | first :: _ => ⟨g.nodes.flatMap (g.nodeFindings first (g.ancestors first))⟩

/-- Validate a graph. -/
def validate (g : Graph) : Except Breakdown Report :=
  match g.outputs with
  | [] => .ok g.report
  | first :: _ => if g.hasMissingAncestor first then .error .missingNode else .ok g.report

end Graph

end FieldGraph
