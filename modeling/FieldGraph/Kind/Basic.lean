import FieldGraph.Kind.Probe
import FieldGraph.Shader.Function

/-!
# Operator kinds

A kind describes everything nodes of one operator share: the ports with their types, the
parameters with their ranges, the helper functions its code calls, a template for the code of
a node and the probe that computes the same value directly.
-/

namespace FieldGraph

/-- The role a kind plays in a graph. -/
inductive Category where
  /-- Produces a distance from the point alone. -/
  | primitive
  /-- Moves the point before its input is sampled, or adjusts the distance of its input. -/
  | domain
  /-- Merges two or more distances. -/
  | combinator
  /-- Ends the graph; its input is the final distance. -/
  | output
  /-- Produces scalars, vectors or points that drive other nodes. -/
  | value
  /-- No role; kinds with it are refused. -/
  | undefined
  deriving DecidableEq, Repr

namespace Category

/-- The category with a given number; zero and numbers past the last have no meaning. -/
def ofCode : Nat → Category
  | 1 => primitive
  | 2 => domain
  | 3 => combinator
  | 4 => output
  | 5 => value
  | _ => undefined

/-- The word for a category. -/
def name : Category → String
  | primitive => "primitive"
  | domain => "domain"
  | combinator => "combinator"
  | output => "output"
  | value => "value"
  | undefined => "undefined"

end Category

/-- The meaning of the values that travel through a port. -/
inductive PortType where
  | distance
  | point
  | scalar
  | vector3
  /-- No meaning; kinds with such a port are refused. -/
  | undefined
  deriving DecidableEq, Repr

namespace PortType

/-- The port type with a given number; zero and numbers past the last have no meaning. -/
def ofCode : Nat → PortType
  | 1 => distance
  | 2 => point
  | 3 => scalar
  | 4 => vector3
  | _ => undefined

/-- The word for a port type. -/
def name : PortType → String
  | distance => "distance"
  | point => "point"
  | scalar => "scalar"
  | vector3 => "vector3"
  | undefined => "undefined"

/-- Whether values are three component vectors in a shader. -/
def isVector : PortType → Bool
  | point | vector3 => true
  | _ => false

end PortType

/-- A port of a kind. -/
structure PortSpec where
  name : String
  type : PortType
  /-- Optional inputs may stay unconnected: points then default to the sampled point, others to
  a parameter. -/
  optional : Bool := false
  deriving DecidableEq, Repr

/-- A parameter of a kind with its closed range. -/
structure ParamSpec where
  name : String
  default : Float32
  min : Float32
  max : Float32

/-- Whether a value may be given to the parameter. What is not a number never may. -/
def ParamSpec.inRange (p : ParamSpec) (v : Float32) : Bool := v ≥ p.min && v ≤ p.max

/-- An input of a node as its template sees it: the expression of what feeds it, as a function
of the point at which it is sampled. -/
structure Input where
  type : PortType
  feed : Option (String → String) := none

namespace Input

/-- Whether something feeds the input. -/
def connected (i : Input) : Bool := i.feed.isSome

/-- The input's expression at a point. An unconnected point input is the point itself; other
unconnected inputs have no expression. -/
def expr (i : Input) (p : String) : String :=
  match i.feed with
  | some f => f p
  | none => if i.type = .point then p else ""

/-- The expression of the numbered input at a point. -/
def exprAt (inputs : List Input) (index : Nat) (p : String) : String :=
  (inputs[index]?.map (·.expr p)).getD ""

/-- Whether the numbered input is fed. -/
def connectedAt (inputs : List Input) (index : Nat) : Bool :=
  (inputs[index]?.map connected).getD false

end Input

/-- The code of a node sampled at a point, from its inputs and the text of its parameters. -/
abbrev Template := (point : String) → List Input → (params : List String) → String

/-- The value of a node at a point, from which inputs are fed and the parameter values. -/
abbrev Evaluator := (point : Vec3) → (wired : List Bool) → (params : List Float32) → Probe Sample

/-- What is known of a kind before its template and evaluator. -/
structure Signature where
  id : String
  category : Category
  inputs : List PortSpec := []
  outputs : List PortSpec := []
  params : List ParamSpec := []
  library : List Shader.Function := []

/-- An operator kind. -/
structure Kind extends Signature where
  template : Template
  evaluate : Evaluator

namespace Signature

/-- Position of the named parameter. -/
def param? (k : Signature) (name : String) : Option Nat := k.params.findIdx? (·.name == name)

/-- Position of the named input. -/
def input? (k : Signature) (name : String) : Option Nat := k.inputs.findIdx? (·.name == name)

/-- Position of the named output. -/
def output? (k : Signature) (name : String) : Option Nat := k.outputs.findIdx? (·.name == name)

/-- The type of the value a node produces; an output node passes on a distance. -/
def resultType (k : Signature) : PortType := (k.outputs.head?.map (·.type)).getD .distance

/-- The parameter values of a new node. -/
def defaults (k : Signature) : List Float32 := k.params.map (·.default)

/-- Whether nodes of the kind end the graph. -/
def isOutput (k : Signature) : Bool := k.category == .output

end Signature

end FieldGraph
