import FieldGraph.Graph.Error

/-!
# Why a field was not built or not evaluated
-/

namespace FieldGraph

/-- Why no field was built from a graph and an order. -/
inductive BuildError where
  | emptyOrder
  | missingNode (node : NodeId)
  | unconnected (kind : String) (node : NodeId) (input : String)
  | notYetBuilt (kind : String) (node : NodeId) (input : String) (supplier : NodeId)
  /-- The order ends in a node that is no output. -/
  | notOutput (kind : String) (node : NodeId)
  deriving DecidableEq, Repr

namespace BuildError

/-- The text of a build error. -/
def message : BuildError → String
  | emptyOrder => "empty evaluation order"
  | missingNode node => "node " ++ toString node ++ " in order: " ++ Cause.nodeNotFound.text
  | unconnected kind node input =>
      kind ++ " node " ++ toString node ++ " input " ++ Text.quote input ++ ": " ++
        Cause.unconnectedInput.text
  | notYetBuilt kind node input supplier =>
      kind ++ " node " ++ toString node ++ " input " ++ Text.quote input ++ ": upstream node " ++
        toString supplier ++ " not evaluated before use"
  | notOutput kind node =>
      "order must end in the output node, got " ++ kind ++ " node " ++ toString node

/-- The cause of a build error, if it is one of the closed list. -/
def cause? : BuildError → Option Cause
  | missingNode _ => some .nodeNotFound
  | unconnected .. => some .unconnectedInput
  | emptyOrder | notYetBuilt .. | notOutput .. => none

end BuildError

/-- Why points were not evaluated. -/
inductive EvalError where
  /-- There are not as many places for distances as points. -/
  | lengthMismatch
  | emptyBuffers
  /-- The source of distances gave up. -/
  | failed
  deriving DecidableEq, Repr

/-- The text of an evaluation error. -/
def EvalError.message : EvalError → String
  | lengthMismatch => "position and distance buffer length mismatch"
  | emptyBuffers => "empty buffers"
  | failed => "evaluation failed"

end FieldGraph
