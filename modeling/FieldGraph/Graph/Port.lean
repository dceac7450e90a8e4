/-!
# Ports and connections

Nodes and connections are numbered from one upwards and numbers are never reused. Numbers have
no bound here: the counters behind them are taken not to wrap, which 64 bits allow for as long
as anyone edits. A port names a node, a direction and a position, and need not exist: whether it
does is for the graph to say.
-/

namespace FieldGraph

/-- Number of a node. -/
abbrev NodeId := Int

/-- Number of a connection. -/
abbrev ConnId := Int

/-- Which side of a node a port is on. -/
inductive Direction where
  | input
  | output
  /-- A number that means neither side. -/
  | other (code : Nat)
  deriving DecidableEq, Repr

namespace Direction

/-- The direction with a given number. -/
def ofCode : Nat → Direction
  | 1 => input
  | 2 => output
  | code => other code

/-- The number of a direction. -/
def code : Direction → Nat
  | input => 1
  | output => 2
  | other code => code

/-- The word for a direction. -/
def name : Direction → String
  | input => "in"
  | output => "out"
  | other _ => "undefined"

end Direction

/-- A place where connections may start or end. -/
structure Port where
  node : NodeId
  direction : Direction
  index : Int
  deriving DecidableEq, Repr

namespace Port

/-- The numbered input of a node. -/
def into (node : NodeId) (index : Int) : Port := ⟨node, .input, index⟩

/-- The numbered output of a node. -/
def outOf (node : NodeId) (index : Int) : Port := ⟨node, .output, index⟩

/-- How messages show a port. -/
def text (p : Port) : String :=
  "node " ++ toString p.node ++ " " ++ p.direction.name ++ "[" ++ toString p.index ++ "]"

end Port

/-- A link from an output of one node to an input of another. -/
structure Connection where
  id : ConnId
  src : Port
  dst : Port
  deriving DecidableEq, Repr

/-- What stands for a connection that does not exist. -/
def Connection.missing : Connection := ⟨0, ⟨0, .other 0, 0⟩, ⟨0, .other 0, 0⟩⟩

end FieldGraph
