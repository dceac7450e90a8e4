import FieldGraph.Graph.Basic

/-!
# Commands

The closed set of edits a session accepts.
-/

namespace FieldGraph

/-- A graph edit. -/
inductive Command where
  | addNode (kind : String) (position : Vec2)
  | removeNode (id : NodeId)
  | connect (src dst : Port)
  | disconnect (id : ConnId)
  | setParameter (node : NodeId) (name : String) (value : Float32)

namespace Command

/-- How messages show a command. -/
def text : Command → String
  | addNode kind _ => "add " ++ kind
  | removeNode id => "remove node " ++ toString id
  | connect src dst => "connect " ++ src.text ++ " -> " ++ dst.text
  | disconnect id => "disconnect " ++ toString id
  | setParameter node name value =>
      "set node " ++ toString node ++ " " ++ name ++ "=" ++ messageFloat value

/-- What an accepted edit created or removed. -/
structure Effect where
  node : NodeId := 0
  conn : ConnId := 0
  removed : List Connection := []
  deriving DecidableEq, Repr

/-- Edit a graph. -/
def apply (g : Graph) : Command → Except EditError (Effect × Graph)
  | addNode kind position => do
      let (node, g) ← g.addNode kind
      return ({ node }, ← g.setPosition node position)
  | removeNode id => do
      let (removed, g) ← g.removeNode id
      return ({ removed }, g)
  | connect src dst => do
      let (conn, g) ← g.connect src dst
      return ({ conn }, g)
  | disconnect id => do return ({}, ← g.disconnect id)
  | setParameter node name value => do return ({}, ← g.setParameter node name value)

end Command

end FieldGraph
