import FieldGraph.Graph.Port
import FieldGraph.Number.Notation
import FieldGraph.Text.Quoted

/-!
# What can be wrong with a graph or an edit

Every error has causes out of one closed list, which programs test, and a text, which people
read. Errors add to their cause what it was about: the ports of a connection, the value of a
parameter, the path of a cycle.
-/

namespace FieldGraph

/-- The closed list of causes. -/
inductive Cause where
  | kindNotFound
  | nodeNotFound
  | connectionNotFound
  | portNotFound
  | portDirection
  | selfLoop
  | typeMismatch
  | inputOccupied
  | wouldCreateCycle
  | outOfRange
  | unknownParameter
  | outputExists
  | noOutput
  | multipleOutputs
  | unconnectedInput
  | unreachableNode
  | cycle
  | nameConflict
  deriving DecidableEq, Repr

/-- The text of a cause. -/
def Cause.text : Cause → String
  | kindNotFound => "operator kind not found"
  | nodeNotFound => "node not found"
  | connectionNotFound => "connection not found"
  | portNotFound => "port not found"
  | portDirection => "wrong port direction"
  | selfLoop => "self loop"
  | typeMismatch => "port type mismatch"
  | inputOccupied => "input already connected"
  | wouldCreateCycle => "connection would create cycle"
  | outOfRange => "parameter out of range"
  | unknownParameter => "unknown parameter"
  | outputExists => "graph already has an output node"
  | noOutput => "graph has no output node"
  | multipleOutputs => "graph has multiple output nodes"
  | unconnectedInput => "required input not connected"
  | unreachableNode => "node not reachable from output"
  | cycle => "graph contains cycle"
  | nameConflict => "shader function name conflict"

/-- The word by which programs know a cause. -/
def Cause.label : Cause → String
  | kindNotFound => "kind_not_found"
  | nodeNotFound => "node_not_found"
  | connectionNotFound => "conn_not_found"
  | portNotFound => "port_not_found"
  | portDirection => "port_direction"
  | selfLoop => "self_loop"
  | typeMismatch => "type_mismatch"
  | inputOccupied => "input_occupied"
  | wouldCreateCycle => "would_create_cycle"
  | outOfRange => "out_of_range"
  | unknownParameter => "unknown_parameter"
  | outputExists => "output_exists"
  | noOutput => "no_output"
  | multipleOutputs => "multiple_outputs"
  | unconnectedInput => "unconnected_input"
  | unreachableNode => "unreachable_node"
  | cycle => "cycle"
  | nameConflict => "name_conflict"

/-- All causes in the order of the list. -/
def Cause.all : List Cause :=
  [kindNotFound, nodeNotFound, connectionNotFound, portNotFound, portDirection, selfLoop,
   typeMismatch, inputOccupied, wouldCreateCycle, outOfRange, unknownParameter, outputExists,
   noOutput, multipleOutputs, unconnectedInput, unreachableNode, cycle, nameConflict]

/-- A cause with a note about the case at hand. -/
structure Reason where
  cause : Cause
  note : String := ""
  deriving DecidableEq, Repr

/-- The text of a reason. -/
def Reason.text (r : Reason) : String :=
  if r.note = "" then r.cause.text else r.cause.text ++ ": " ++ r.note

/-- A refused connection. -/
structure ConnectionError where
  src : Port
  dst : Port
  reason : Reason
  deriving DecidableEq, Repr

/-- The text of a refused connection. -/
def ConnectionError.message (e : ConnectionError) : String :=
  "connect " ++ e.src.text ++ " -> " ++ e.dst.text ++ ": " ++ e.reason.text

/-- A refused parameter value. -/
structure ParamError where
  node : NodeId
  name : String
  value : Float32
  reason : Reason

/-- The text of a refused parameter value. -/
def ParamError.message (e : ParamError) : String :=
  "node " ++ toString e.node ++ " parameter " ++ Text.quote e.name ++ "=" ++
    messageFloat e.value ++ ": " ++ e.reason.text

/-- A refused edit or a failed lookup. -/
inductive EditError where
  /-- The reason alone says everything. -/
  | plain (reason : Reason)
  | removing (node : NodeId)
  | positioning (node : NodeId)
  | disconnecting (conn : ConnId)
  | connecting (error : ConnectionError)
  | setting (error : ParamError)

namespace EditError

/-- The text of an edit error. -/
def message : EditError → String
  | plain reason => reason.text
  | removing node => "remove node " ++ toString node ++ ": " ++ Cause.nodeNotFound.text
  | positioning node => "set position of node " ++ toString node ++ ": " ++ Cause.nodeNotFound.text
  | disconnecting conn => "disconnect " ++ toString conn ++ ": " ++ Cause.connectionNotFound.text
  | connecting error => error.message
  | setting error => error.message

/-- The cause of an edit error. -/
def cause : EditError → Cause
  | plain reason => reason.cause
  | removing _ | positioning _ => .nodeNotFound
  | disconnecting _ => .connectionNotFound
  | connecting error => error.reason.cause
  | setting error => error.reason.cause

end EditError

/-- How grave a finding is. -/
inductive Severity where
  /-- Prevents compilation. -/
  | error
  /-- Worth knowing. -/
  | warning
  /-- A number without a meaning. -/
  | other (code : Int)
  deriving DecidableEq, Repr

namespace Severity

/-- The severity with a given number. -/
def ofCode : Int → Severity
  | 0 => error
  | 1 => warning
  | code => other code

/-- The word for a severity. -/
def name : Severity → String
  | error => "error"
  | warning => "warning"
  | other code => "Severity(" ++ toString code ++ ")"

end Severity

/-- One finding about a graph. -/
structure Diagnostic where
  severity : Severity
  /-- The node concerned, zero for the graph as a whole. -/
  node : NodeId
  /-- The input concerned, `-1` if none in particular. -/
  input : Int
  cause : Cause
  message : String
  deriving DecidableEq, Repr

/-- A finding with its severity and place. -/
def Diagnostic.text (d : Diagnostic) : String :=
  if d.node = 0 then "[" ++ d.severity.name ++ "] " ++ d.message
  else "[" ++ d.severity.name ++ "] node " ++ toString d.node ++ ": " ++ d.message

/-- The text of a failed validation with the given findings. -/
def validationMessage : List Diagnostic → String
  | [] => "graph validation failed"
  | [d] => d.text
  | ds => toString ds.length ++ " validation errors:" ++
      String.join (ds.map fun d => "\n\t" ++ d.text)

/-- The text of a cycle with the nodes along it. -/
def cycleMessage (path : List NodeId) : String :=
  match path with
  | [] => Cause.cycle.text
  | _ => Cause.cycle.text ++ ": " ++ " -> ".intercalate (path.map toString)

end FieldGraph
