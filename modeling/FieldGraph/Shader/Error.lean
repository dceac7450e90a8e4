import FieldGraph.Graph.Error

/-!
# Why no shader was generated
-/

namespace FieldGraph

/-- Why generation failed. -/
inductive GenerateError where
  | emptyOrder
  /-- The order names a node that does not exist. -/
  | missingNode (node : NodeId)
  /-- An output node stands before the end, or another node at the end. -/
  | misplaced (kind : String) (node : NodeId) (position : Nat)
  /-- A required input is not connected. -/
  | unconnected (kind : String) (node : NodeId) (input : String)
  /-- What feeds an input does not come earlier. -/
  | notYetGenerated (kind : String) (node : NodeId) (input : String) (supplier : NodeId)
  /-- Two bodies claim one function name. -/
  | nameConflict (kind : String) (node : NodeId) (name body : String)
  /-- Two library functions claim one name. -/
  | libraryConflict (name : String)
  deriving DecidableEq, Repr

namespace GenerateError

/-- The text of a generation error. -/
def message : GenerateError → String
  | emptyOrder => "empty evaluation order"
  | missingNode node => "node " ++ toString node ++ " in order: " ++ Cause.nodeNotFound.text
  | misplaced kind node position =>
      "order must end in the output node, got " ++ kind ++ " node " ++ toString node ++
        " at position " ++ toString position
  | unconnected kind node input =>
      kind ++ " node " ++ toString node ++ " input " ++ Text.quote input ++ ": " ++
        Cause.unconnectedInput.text
  | notYetGenerated kind node input supplier =>
      kind ++ " node " ++ toString node ++ " input " ++ Text.quote input ++ ": upstream node " ++
        toString supplier ++ " not generated before use"
  | nameConflict kind node name body =>
      kind ++ " node " ++ toString node ++ ": " ++ Cause.nameConflict.text ++ ": " ++
        Text.quote name ++ " w/ body " ++ Text.quote body
  | libraryConflict name =>
      Cause.nameConflict.text ++ ": distinct library functions named " ++ Text.quote name

/-- The cause of a generation error, if it is one of the closed list. -/
def cause? : GenerateError → Option Cause
  | missingNode _ => some .nodeNotFound
  | unconnected .. => some .unconnectedInput
  | nameConflict .. | libraryConflict _ => some .nameConflict
  | emptyOrder | misplaced .. | notYetGenerated .. => none

end GenerateError

end FieldGraph
