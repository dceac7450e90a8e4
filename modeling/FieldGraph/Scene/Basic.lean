import FieldGraph.Config.Span
import FieldGraph.Geometry.Vec

/-!
# Scenes

A scene declares named nodes with parameters and links between their ports. Spans point into the
text it was read from.
-/

namespace FieldGraph

namespace Scene

/-- A parameter and the value it is set to. -/
structure Param where
  name : String
  value : Float32
  span : Config.Span

/-- A named node. -/
structure Declaration where
  name : String
  kind : String
  position : Vec2 := {}
  /-- Parameters in the order in which they are set. -/
  params : List Param := []
  span : Config.Span

/-- A port of a node, both by name. -/
structure Endpoint where
  node : String
  port : String
  deriving DecidableEq, Repr

namespace Endpoint

/-- The node and the port with a point between them. -/
def text (e : Endpoint) : String := e.node ++ "." ++ e.port

/-- Read a node and a port around a single point. Neither is empty. -/
def ofText? (s : String) : Option Endpoint :=
  let node := s.toList.takeWhile (· ≠ '.')
  match s.toList.drop node.length with
  | '.' :: port =>
      if node.isEmpty || port.isEmpty || port.contains '.' then none
      else some ⟨String.ofList node, String.ofList port⟩
  | _ => none

end Endpoint

/-- A connection between ports by name. -/
structure Link where
  source : Endpoint
  target : Endpoint
  span : Config.Span
  deriving DecidableEq, Repr

end Scene

/-- The nodes and links of a scene in the order of its text. -/
structure Scene where
  nodes : List Scene.Declaration := []
  links : List Scene.Link := []

end FieldGraph
