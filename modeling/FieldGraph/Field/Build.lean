import FieldGraph.Field.Error
import FieldGraph.Graph.Basic

/-!
# Fields

A graph denotes a function from points to distances: each node runs its probe, answering
questions about an input by the function of the node that feeds it. The construction is
generic in the effect of sampling and in what is done to a node that several inputs share. With
no effect and no sharing it is the plain meaning of the graph. With one remembered sample per
shared node it is the field that is actually evaluated, where a shared node sampled again at
the point it was last sampled at is not run again.
-/

namespace FieldGraph.Field

variable {m : Type → Type} [Monad m]

/-- A node as the nodes it feeds see it. -/
abbrev Sampler (m : Type → Type) := Vec3 → m Sample

/-- The value of an unconnected input: the point itself for points, else zero. -/
@[inline] def unfed (type : PortType) (q : Vec3) : Sample :=
  match type with
  | .point => { v := q }
  | _ => {}

/-- How a node answers its probe's questions about its inputs. -/
@[inline] def answer (inputs : List (PortType × Option (Sampler m))) (index : Nat) (q : Vec3) :
    m Sample :=
  match inputs[index]? with
  | some (_, some feed) => feed q
  | some (type, none) => pure (unfed type q)
  | none => pure {}

/-- What feeds the inputs of a node, from the nodes built before it. -/
def resolve (g : Graph) (node : Node) (built : List (NodeId × Sampler m)) :
    Nat → List PortSpec → Except BuildError (List (PortType × Option (Sampler m)))
  | _, [] => .ok []
  | index, port :: rest =>
      match g.incoming? (.into node.id index) with
      | none =>
          if port.optional then do
            return (port.type, none) :: (← resolve g node built (index + 1) rest)
          else .error (.unconnected node.kind.id node.id port.name)
      | some conn =>
          match built.find? (·.1 == conn.src.node) with
          | none => .error (.notYetBuilt node.kind.id node.id port.name conn.src.node)
          | some (_, feed) => do
              return (port.type, some feed) :: (← resolve g node built (index + 1) rest)

/-- The function of one node. -/
@[specialize] def nodeSampler (node : Node) (inputs : List (PortType × Option (Sampler m))) :
    Sampler m :=
  let wired := inputs.map (·.2.isSome)
  fun p => (node.kind.evaluate p wired node.params).run (answer inputs)

/-- Build the functions of the nodes from a position on; the last one is the result. -/
@[specialize] def buildFrom (share : Nat → Sampler m → Sampler m) (g : Graph)
    (consumed : List NodeId) (built : List (NodeId × Sampler m)) (position : Nat) :
    List NodeId → Except BuildError (Sampler m)
  | [] => .error .emptyOrder
  | id :: rest =>
      match g.node? id with
      | none => .error (.missingNode id)
      | some node => do
          let inputs ← resolve g node built 0 node.kind.inputs
          let own := nodeSampler node inputs
          let sampler := if 1 < consumed.count id then share position own else own
          match rest with
          | [] => if node.kind.isOutput then .ok sampler else .error (.notOutput node.kind.id id)
          | _ :: _ => buildFrom share g consumed ((id, sampler) :: built) (position + 1) rest

/-- Build the function of an order that ends in an output node. Nodes consumed more than once
are shared. -/
@[specialize] def build (share : Nat → Sampler m → Sampler m) (g : Graph) (order : List NodeId) :
    Except BuildError (Sampler m) :=
  buildFrom share g (g.consumed order) [] 0 order

/-- The plain meaning of a graph: nothing is remembered. -/
def plain (g : Graph) (order : List NodeId) : Except BuildError (Vec3 → Sample) :=
  build (m := Id) (fun _ sampler => sampler) g order

/-- For every position of the order the point last sampled there with its value. -/
abbrev Memory := Array (Option (Vec3 × Sample))

/-- Remember the last sample of a position. -/
def remember (position : Nat) (sampler : Sampler (StateM Memory)) : Sampler (StateM Memory) :=
  fun p => do
    let memory ← get
    let known := match memory[position]? with
      | some (some (last, sample)) => if p.same last then some sample else none
      | _ => none
    match known with
    | some sample => return sample
    | none =>
        let sample ← sampler p
        modify fun memory => memory.setIfInBounds position (some (p, sample))
        return sample

end FieldGraph.Field

namespace FieldGraph

/-- A field built from a graph, which later edits of the graph do not change. -/
structure Field where
  /-- The distance function with its remembered samples. -/
  root : Field.Sampler (StateM Field.Memory)
  /-- The box said to contain the solid. -/
  bounds : Box
  /-- Number of nodes in the order. -/
  nodes : Nat

namespace Field

/-- Build a field. -/
def of (g : Graph) (order : List NodeId) (bounds : Box) : Except BuildError Field := do
  return ⟨← build remember g order, bounds, order.length⟩

/-- Nothing remembered yet. -/
def fresh (f : Field) : Memory := Array.replicate f.nodes none

end Field

end FieldGraph
