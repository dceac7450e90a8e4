import FieldGraph.Kind.Basic
import FieldGraph.Number.Notation
import FieldGraph.Text.Quoted

/-!
# Drafts of kinds

A kind enters a catalog as a draft, whose template or evaluator may be missing and whose parts
may be inconsistent. Checking a draft lists everything wrong with it in a fixed order: the
identity and category, the missing parts, the number of outputs, the ports and parameters in
turn, and the library functions. A draft without faults is a kind.
-/

namespace FieldGraph

/-- A proposed kind. -/
structure Draft extends Signature where
  template? : Option Template := none
  evaluate? : Option Evaluator := none

/-- One thing wrong with a draft. -/
inductive Draft.Fault where
  | emptyId
  | undefinedCategory
  | noTemplate
  | noEvaluator
  | outputWithPorts
  | outputCount (got : Nat)
  | emptyPortName
  | duplicatePort (name : String)
  | undefinedPort (name : String)
  | emptyParamName
  | duplicateParam (name : String)
  | emptyRange (name : String)
  | defaultOutside (spec : ParamSpec)
  | library (fault : Shader.Function.Fault)

namespace Draft

/-- The text of a fault of the draft with a given identity. -/
def Fault.message (id : String) (fault : Fault) : String :=
  "kind " ++ Text.quote id ++ ": " ++ match fault with
  | emptyId => "empty ID"
  | undefinedCategory => "undefined category"
  | noTemplate => "nil template"
  | noEvaluator => "nil evaluator"
  | outputWithPorts => "output kinds have no output ports"
  | outputCount got => "want exactly one output port, got " ++ toString got
  | emptyPortName => "empty port name"
  | duplicatePort name => "duplicate port name " ++ Text.quote name
  | undefinedPort name => "port " ++ Text.quote name ++ " has undefined type"
  | emptyParamName => "empty parameter name"
  | duplicateParam name => "duplicate parameter name " ++ Text.quote name
  | emptyRange name => "parameter " ++ Text.quote name ++ " has empty range"
  | defaultOutside spec =>
      "parameter " ++ Text.quote spec.name ++ " default " ++ messageFloat spec.default ++
        " outside [" ++ messageFloat spec.min ++ ", " ++ messageFloat spec.max ++ "]"
  | library fault => fault.message

/-- Faults of ports, given the names used before them. -/
def portFaults (used : List String) : List PortSpec → List Fault
  | [] => []
  | port :: rest =>
      let naming :=
        if port.name = "" then [Fault.emptyPortName]
        else if port.name ∈ used then [.duplicatePort port.name] else []
      let typing := if port.type = .undefined then [Fault.undefinedPort port.name] else []
      naming ++ typing ++ portFaults (port.name :: used) rest

/-- Faults of parameters, given the names used before them. -/
def paramFaults (used : List String) : List ParamSpec → List Fault
  | [] => []
  | param :: rest =>
      let naming :=
        if param.name = "" then [Fault.emptyParamName]
        else if param.name ∈ used then [.duplicateParam param.name] else []
      let range :=
        if param.min > param.max then [Fault.emptyRange param.name]
        else if !param.inRange param.default then [.defaultOutside param] else []
      naming ++ range ++ paramFaults (param.name :: used) rest

/-- The fault of a library function, if it has one. -/
def libraryFault (f : Shader.Function) : Option Fault :=
  match f.check with
  | .ok _ => none
  | .error fault => some (.library fault)

/-- Everything wrong with a draft. Inputs and outputs are named independently. -/
def faults (d : Draft) : List Fault :=
  (if d.id = "" then [Fault.emptyId] else []) ++
  (if d.category = .undefined then [Fault.undefinedCategory] else []) ++
  (if d.template?.isNone then [Fault.noTemplate] else []) ++
  (if d.evaluate?.isNone then [Fault.noEvaluator] else []) ++
  (if d.category = .output then
    (if d.outputs.length ≠ 0 then [Fault.outputWithPorts] else [])
  else if d.outputs.length ≠ 1 then [Fault.outputCount d.outputs.length] else []) ++
  portFaults [] d.inputs ++ portFaults [] d.outputs ++ paramFaults [] d.params ++
  d.library.filterMap libraryFault

/-- The kind a draft describes, or what is wrong with it. -/
def toKind (d : Draft) : Except (List Fault) Kind :=
  match d.faults, d.template?, d.evaluate? with
  | [], some template, some evaluate => .ok { d.toSignature with template, evaluate }
  | faults, _, _ => .error faults

end Draft

/-- A kind as a draft, with nothing missing. -/
def Kind.draft (k : Kind) : Draft :=
  { k.toSignature with template? := some k.template, evaluate? := some k.evaluate }

end FieldGraph
