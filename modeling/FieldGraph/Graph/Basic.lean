import FieldGraph.Graph.Error
import FieldGraph.Kind.Catalog

/-!
# Graphs

A graph holds nodes, connections and an index from input ports to the connections that feed
them. The index is stored, not derived: removing a connection always frees its destination.
Edits are checked before anything changes, so a refused edit leaves no trace; acyclicity and
the single output are consequences of the checks and not part of the type. No edit uses
`addNodeUnchecked`: it is there to make states that the edits never reach, with a second output
node, on which to try what validation and ordering do.
-/

namespace FieldGraph

/-- An instance of a kind. -/
structure Node where
  id : NodeId
  kind : Kind
  /-- One value per parameter of the kind. -/
  params : List Float32
  /-- Place on the editor canvas, which compilation ignores. -/
  position : Vec2 := {}

/-- The value of a named parameter. -/
def Node.param? (n : Node) (name : String) : Option Float32 :=
  (n.kind.param? name).map fun index => n.params.getD index 0

/-- Nodes with the connections between them. -/
structure Graph where
  /-- Where kinds come from. -/
  catalog : Catalog
  /-- Live nodes, ascending by number. -/
  nodes : List Node := []
  /-- Live connections, ascending by number. -/
  conns : List Connection := []
  /-- For every fed input port the connection that feeds it. -/
  feeds : List (Port × ConnId) := []
  /-- The output node. -/
  output : Option NodeId := none
  /-- The last number given to a node. -/
  lastNode : NodeId := 0
  /-- The last number given to a connection. -/
  lastConn : ConnId := 0

namespace Graph

/-- No nodes yet. -/
def empty (catalog : Catalog) : Graph := { catalog }

/-! ## Lookups -/

/-- The node with a number. -/
def node? (g : Graph) (id : NodeId) : Option Node := g.nodes.find? (·.id == id)

/-- A node that is found has the number it was looked up by. -/
theorem id_of_node? {g : Graph} {id : NodeId} {n : Node} (h : g.node? id = some n) : n.id = id := by
  simpa using List.find?_some h

/-- Whether a number belongs to a node. -/
def isLive (g : Graph) (id : NodeId) : Bool := (g.node? id).isSome

/-- The numbers of all nodes in ascending order. -/
def nodeIds (g : Graph) : List NodeId := g.nodes.map (·.id)

/-- The connection with a number. -/
def conn? (g : Graph) (id : ConnId) : Option Connection := g.conns.find? (·.id == id)

/-- The number of the connection that feeds an input port. -/
def feed? (g : Graph) (dst : Port) : Option ConnId :=
  (g.feeds.find? (·.1 == dst)).map (·.2)

/-- The connection that feeds an input port. -/
def incoming? (g : Graph) (dst : Port) : Option Connection :=
  (g.feed? dst).map fun id => (g.conn? id).getD .missing

/-- The connections that leave a node, ascending by number. -/
def outgoing (g : Graph) (id : NodeId) : List Connection := g.conns.filter (·.src.node == id)

/-- For every fed input of the listed nodes the node that feeds it. -/
def consumed (g : Graph) (order : List NodeId) : List NodeId :=
  order.flatMap fun consumer =>
    match g.node? consumer with
    | none => []
    | some node =>
        (List.range node.kind.inputs.length).filterMap fun (index : Nat) =>
          (g.incoming? (.into consumer index)).map (·.src.node)

/-- The description of a port, which exists if this succeeds. -/
def portSpec (g : Graph) (p : Port) : Except Reason PortSpec :=
  match g.node? p.node with
  | none => .error ⟨.nodeNotFound, toString p.node⟩
  | some node =>
      let absent : Reason := ⟨.portNotFound, p.text ++ " of " ++ node.kind.id⟩
      let pick (ports : List PortSpec) : Except Reason PortSpec :=
        if p.index < 0 then .error absent
        else match ports[p.index.toNat]? with
          | some spec => .ok spec
          | none => .error absent
      match p.direction with
      | .input => pick node.kind.inputs
      | .output => pick node.kind.outputs
      | .other _ => .error ⟨.portDirection, p.text⟩

/-- The port of a node with a given name. -/
def portNamed (g : Graph) (id : NodeId) (output : Bool) (name : String) : Except Reason Port :=
  match g.node? id with
  | none => .error ⟨.nodeNotFound, toString id⟩
  | some node =>
      let direction : Direction := if output then .output else .input
      match if output then node.kind.output? name else node.kind.input? name with
      | some index => .ok ⟨id, direction, index⟩
      | none => .error ⟨.portNotFound,
          direction.name ++ " " ++ Text.quote name ++ " on " ++ node.kind.id⟩

/-! ## Edits -/

/-- Append a node of a kind with default parameters. -/
def pushNode (g : Graph) (kind : Kind) : NodeId × Graph :=
  let id := g.lastNode + 1
  let output := if kind.isOutput && g.output.isNone then some id else g.output
  (id, { g with
    nodes := g.nodes ++ [{ id, kind, params := kind.defaults }], lastNode := id, output })

/-- The kind of a catalog, or the reason it is missing. -/
def kind (g : Graph) (id : String) : Except EditError Kind :=
  match g.catalog.find? id with
  | some kind => .ok kind
  | none => .error (.plain ⟨.kindNotFound, Text.quote id⟩)

/-- Add a node. A second output node is refused. -/
def addNode (g : Graph) (kindId : String) : Except EditError (NodeId × Graph) := do
  let kind ← g.kind kindId
  match kind.isOutput, g.output with
  | true, some output => .error (.plain ⟨.outputExists, "node " ++ toString output⟩)
  | _, _ => .ok (g.pushNode kind)

/-- Add a node without looking for an output node. For trials only: no edit does this. -/
def addNodeUnchecked (g : Graph) (kindId : String) : Except EditError (NodeId × Graph) := do
  let kind ← g.kind kindId
  return g.pushNode kind

/-- Drop a connection and free its destination. -/
def dropConn (g : Graph) (c : Connection) : Graph :=
  { g with conns := g.conns.filter (·.id != c.id), feeds := g.feeds.filter (·.1 != c.dst) }

/-- Remove a node with every connection that touches it, which are returned ascending by
number. -/
def removeNode (g : Graph) (id : NodeId) : Except EditError (List Connection × Graph) :=
  if g.isLive id then
    let removed := g.conns.filter fun c => c.src.node == id || c.dst.node == id
    let g := removed.foldl dropConn g
    let output := if g.output = some id then none else g.output
    .ok (removed, { g with nodes := g.nodes.filter (·.id != id), output })
  else .error (.removing id)

/-- Apply a function to the node with a number. -/
def updateNode (g : Graph) (id : NodeId) (f : Node → Node) : Graph :=
  { g with nodes := g.nodes.map fun n => if n.id = id then f n else n }

/-- Place a node on the canvas. -/
def setPosition (g : Graph) (id : NodeId) (position : Vec2) : Except EditError Graph :=
  if g.isLive id then .ok (g.updateNode id fun n => { n with position })
  else .error (.positioning id)

/-- Set a named parameter to a value within its range. -/
def setParameter (g : Graph) (id : NodeId) (name : String) (value : Float32) :
    Except EditError Graph :=
  let refuse (cause : Cause) (note : String) : Except EditError Graph :=
    .error (.setting ⟨id, name, value, ⟨cause, note⟩⟩)
  match g.node? id with
  | none => refuse .nodeNotFound ""
  | some node =>
      match node.kind.param? name with
      | none => refuse .unknownParameter ("kind " ++ node.kind.id)
      | some index =>
          match node.kind.params[index]? with
          | none => refuse .unknownParameter ("kind " ++ node.kind.id)
          | some spec =>
              if spec.inRange value then
                .ok (g.updateNode id fun n => { n with params := n.params.set index value })
              else refuse .outOfRange
                ("want [" ++ messageFloat spec.min ++ ", " ++ messageFloat spec.max ++ "]")

/-! ## Connecting -/

/-- A filter and its complement share out a list. -/
theorem length_filter_add {α : Type} (p : α → Bool) (l : List α) :
    (l.filter p).length + (l.filter (!p ·)).length = l.length := by
  induction l with
  | nil => rfl
  | cons a l ih => cases h : p a <;> simp [h] <;> omega

/-- Where the edges of a node lead. -/
def targets (edges : List (NodeId × NodeId)) (n : NodeId) : List NodeId :=
  (edges.filter (·.1 == n)).map (·.2)

/-- The edges of all other nodes. -/
def without (edges : List (NodeId × NodeId)) (n : NodeId) : List (NodeId × NodeId) :=
  edges.filter (·.1 != n)

/-- Every edge of a node is followed or kept. -/
theorem length_targets_add (edges : List (NodeId × NodeId)) (n : NodeId) :
    (targets edges n).length + (without edges n).length = edges.length := by
  rw [targets, List.length_map]
  exact length_filter_add (·.1 == n) edges

/-- Nodes found from a stack of nodes by following edges. Every edge is followed at most once:
the edges of a node are dropped when the node is first met. -/
def search (edges : List (NodeId × NodeId)) (stack seen : List NodeId) : List NodeId :=
  match stack with
  | [] => seen
  | n :: rest =>
      if n ∈ seen then search edges rest seen
      else search (without edges n) (targets edges n ++ rest) (n :: seen)
termination_by edges.length + stack.length
decreasing_by
  · rw [List.length_cons]
    omega
  · have split := length_targets_add edges n
    rw [List.length_append, List.length_cons]
    omega

/-- Every connection as an edge between nodes. -/
def edges (g : Graph) : List (NodeId × NodeId) := g.conns.map fun c => (c.src.node, c.dst.node)

/-- Whether connections lead from one node to another. -/
def reaches (g : Graph) (start goal : NodeId) : Bool := goal ∈ search g.edges [start] []

/-- Append a connection and let it feed its destination. -/
def pushConn (g : Graph) (src dst : Port) : ConnId × Graph :=
  let id := g.lastConn + 1
  (id, { g with
    conns := g.conns ++ [⟨id, src, dst⟩]
    feeds := (dst, id) :: g.feeds.filter (·.1 != dst)
    lastConn := id })

/-- Connect an output to an input. The checks are made in this order: directions, source,
destination, self loop, types, occupied input, cycle. -/
def connect (g : Graph) (src dst : Port) : Except EditError (ConnId × Graph) :=
  let refuse (reason : Reason) : Except EditError (ConnId × Graph) :=
    .error (.connecting ⟨src, dst, reason⟩)
  if src.direction ≠ .output ∨ dst.direction ≠ .input then
    refuse ⟨.portDirection, "want output to input"⟩
  else match g.portSpec src, g.portSpec dst with
    | .error reason, _ => refuse reason
    | _, .error reason => refuse reason
    | .ok srcSpec, .ok dstSpec =>
        if src.node = dst.node then refuse ⟨.selfLoop, ""⟩
        else if srcSpec.type ≠ dstSpec.type then
          refuse ⟨.typeMismatch, srcSpec.type.name ++ " output " ++ Text.quote srcSpec.name ++
            " to " ++ dstSpec.type.name ++ " input " ++ Text.quote dstSpec.name⟩
        else match g.feed? dst with
          | some existing => refuse ⟨.inputOccupied, "by connection " ++ toString existing⟩
          | none =>
              if g.reaches dst.node src.node then refuse ⟨.wouldCreateCycle, ""⟩
              else .ok (g.pushConn src dst)

/-- Remove a connection. -/
def disconnect (g : Graph) (id : ConnId) : Except EditError Graph :=
  match g.conn? id with
  | none => .error (.disconnecting id)
  | some c => .ok (g.dropConn c)

end Graph

end FieldGraph
