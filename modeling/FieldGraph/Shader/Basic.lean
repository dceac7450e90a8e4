import FieldGraph.Graph.Basic
import FieldGraph.Shader.Dialect
import FieldGraph.Shader.Error
import FieldGraph.Shader.Name
import FieldGraph.Shader.Scratch

/-!
# Shader generation

Every node of the order becomes one function of the sampled point whose body calls the
functions of the nodes that feed it; nodes with equal code share a function. Beside the
functions, the whole distance is given as one expression in which every node with a single
consumer is expanded in place and every other node is called.
-/

namespace FieldGraph

/-- The code generated for one node. -/
structure NodeCode where
  node : NodeId
  kind : String
  /-- Name of the node's function. -/
  name : String
  type : PortType
  /-- What the function returns, in terms of the point `p`. -/
  body : String
  /-- First vector of the node's parameters in the uniform array. -/
  slot : Option Nat
  deriving DecidableEq, Repr

/-- A generated shader. -/
structure Shader where
  /-- Which shader of its compiler this is, counted from one. -/
  generation : Nat
  dialect : Dialect
  mode : ParamMode
  /-- The code of every node in evaluation order, the output last. -/
  nodes : List NodeCode
  /-- Library functions, node functions and the entry point. -/
  source : String
  /-- The distance at `p` in one expression. -/
  expression : String
  /-- Parameter values, four to a vector. -/
  uniforms : List Float32

namespace Shader

/-- Name of the entry point. -/
def entryPoint : String := "sdf"

/-- Name of the uniform array. -/
def uniformName : String := "uParams"

/-- Number of vectors in the uniform array. -/
def slots (s : Shader) : Nat := s.uniforms.length / 4

/-- One line per node: number, kind, name and body. -/
def listing (s : Shader) : String :=
  String.join (s.nodes.map fun n =>
    toString n.node ++ "\t" ++ n.kind ++ "\t" ++ n.name ++ " = " ++ n.body ++ "\n")

/-- The code of a node as its consumers use it. -/
structure Supply where
  /-- Name of the function to call. -/
  name : String
  /-- The expression to put in place, at a point. -/
  inline : String → String

/-- The component letter of a position within a vector. -/
def component (index : Nat) : Char :=
  match index % 4 with
  | 0 => 'x'
  | 1 => 'y'
  | 2 => 'z'
  | _ => 'w'

/-- Values padded with zeros to whole vectors. -/
def padded (values : List Float32) : List Float32 :=
  values ++ List.replicate ((4 - values.length % 4) % 4) 0

/-- Add a library function unless the first function of its name equals it. One of the same
name and another source is kept, so that the conflict is found. -/
def addFunction (library : List Function) (f : Function) : List Function :=
  match library.find? (·.name == f.name) with
  | some other => if other = f then library else library ++ [f]
  | none => library ++ [f]

/-- The first name that two functions share. -/
def conflict? : List Function → Option String
  | [] => none
  | f :: rest => if rest.any (·.name == f.name) then some f.name else conflict? rest

end Shader

/-- What a compiler is set to, how many shaders it has generated, and what it uses again from one
generation to the next. The count is taken never to reach the end of machine words. -/
structure Compiler where
  dialect : Dialect := .glsl
  mode : ParamMode := .inline
  /-- Size of a compute work group. -/
  workGroup : Nat := 32
  /-- Number of the last shader generated. -/
  generation : Nat := 0
  /-- Hashes of the function names that the last generation claimed, with the hash of the body
  each was given. -/
  names : List (UInt64 × UInt64) := []
  /-- Where sources are written. -/
  scratch : Shader.Scratch := {}
  deriving DecidableEq, Repr

namespace Compiler

/-- Why a work group size is refused. -/
inductive WorkGroupFault where
  | notLinear
  | notPositive
  deriving DecidableEq, Repr

/-- The text of a refused work group size. -/
def WorkGroupFault.message : WorkGroupFault → String
  | notLinear => "unsupported"
  | notPositive => "zero or negative X invocation size"

/-- Set the work group size, which must extend along the first axis only. -/
def setWorkGroup (c : Compiler) (x y z : Int) : Except WorkGroupFault Compiler :=
  if y ≠ 1 ∨ z ≠ 1 then .error .notLinear
  else if x < 1 then .error .notPositive
  else .ok { c with workGroup := x.toNat }

/-- The text that reads a parameter: a literal, or a component of the uniform array. -/
def paramText (c : Compiler) (slot : Option Nat) (index : Nat) (value : Float32) : String :=
  match slot with
  | none => literal value
  | some first =>
      let vector := toString (first + index / 4)
      let access := if c.dialect = .wgsl then ".v[" else "["
      (Shader.uniformName ++ access ++ vector ++ "].").push (Shader.component index)

/-- The declaration of the uniform array. -/
def uniformDeclaration (c : Compiler) (slots : Nat) : String :=
  if c.dialect = .wgsl then
    "struct SDFParams \x7b\n\tv: array<vec4<f32>, " ++ toString slots ++
      ">,\n\x7d\n\n@group(0) @binding(2) var<uniform> " ++ Shader.uniformName ++
      ": SDFParams;\n\n"
  else "uniform vec4 " ++ Shader.uniformName ++ "[" ++ toString slots ++ "];\n\n"

/-- The definition of a node function. -/
def functionDefinition (c : Compiler) (name : String) (type : PortType) (body : String) :
    String :=
  let head :=
    if c.dialect = .wgsl then
      "fn " ++ name ++ "(p: vec3<f32>) -> " ++ (if type.isVector then "vec3<f32>" else "f32")
    else (if type.isVector then "vec3" else "float") ++ " " ++ name ++ "(vec3 p)"
  head ++ " \x7b\n\treturn " ++ body ++ ";\n\x7d\n\n"

/-- What generation has produced so far. -/
structure Progress where
  /-- The code of earlier nodes, newest first. -/
  supplies : List (NodeId × Shader.Supply) := []
  codes : List NodeCode := []
  uniforms : List Float32 := []
  library : List Shader.Function := []
  /-- Hashes of function names with the hash of the body each was given. -/
  names : List (UInt64 × UInt64) := []
  /-- Definitions of the node functions. -/
  definitions : String := ""
  expression : String := ""

/-- Both views of the inputs of a node: as calls and as expressions put in place. -/
def resolveInputs (g : Graph) (node : Node) (supplies : List (NodeId × Shader.Supply)) :
    Nat → List PortSpec → Except GenerateError (List Input × List Input)
  | _, [] => .ok ([], [])
  | index, port :: rest =>
      match g.incoming? (.into node.id index) with
      | none =>
          if port.optional then do
            let (calls, inlines) ← resolveInputs g node supplies (index + 1) rest
            .ok ({ type := port.type } :: calls, { type := port.type } :: inlines)
          else .error (.unconnected node.kind.id node.id port.name)
      | some conn =>
          match supplies.find? (·.1 == conn.src.node) with
          | none => .error (.notYetGenerated node.kind.id node.id port.name conn.src.node)
          | some (_, supply) => do
              let (calls, inlines) ← resolveInputs g node supplies (index + 1) rest
              let called (q : String) : String := supply.name ++ "(" ++ q ++ ")"
              .ok (⟨port.type, some called⟩ :: calls, ⟨port.type, some supply.inline⟩ :: inlines)

/-- Claim a function name for a body. The answer says whether the function is new. -/
def claim (names : List (UInt64 × UInt64)) (name body : String) :
    Option (Bool × List (UInt64 × UInt64)) :=
  let nameHash := Shader.hashText name 0
  let bodyHash := Shader.hashText body nameHash
  match names.find? (·.1 == nameHash) with
  | none => some (true, (nameHash, bodyHash) :: names)
  | some (_, claimed) => if claimed = bodyHash then some (false, names) else none

/-- What one node adds to a shader, whatever name its function is given. -/
structure Contribution where
  code : NodeCode
  /-- How later nodes use the node. -/
  supply : Shader.Supply
  /-- The node put in place, at a point. -/
  inline : String → String
  /-- Parameter values up to and including those of the node. -/
  uniforms : List Float32
  /-- Library functions the node calls. -/
  library : List Shader.Function
  /-- Whether the node ends the graph. -/
  isOutput : Bool

/-- The code of a node from both views of its inputs. A shared node is called, another is put
in place. -/
def contribution (c : Compiler) (node : Node) (shared : Bool) (uniforms : List Float32)
    (calls inlines : List Input) : Contribution :=
  let kind := node.kind
  let inUniforms := c.mode = .uniform ∧ node.params ≠ []
  let slot := if inUniforms then some (uniforms.length / 4) else none
  let params := node.params.zipIdx.map fun (value, index) => c.paramText slot index value
  let body := kind.template "p" calls params
  let inline (q : String) : String := kind.template q inlines params
  let name := if kind.isOutput then Shader.entryPoint else Shader.functionName kind.id body
  let called (q : String) : String := name ++ "(" ++ q ++ ")"
  { code := ⟨node.id, kind.id, name, kind.resultType, body, slot⟩
    supply := ⟨name, if shared then called else inline⟩
    inline
    uniforms := if inUniforms then uniforms ++ Shader.padded node.params else uniforms
    library := kind.library
    isOutput := kind.isOutput }

/-- Check the place of a node and generate its code. The order is known by its length and by
what its nodes consume: a node consumed more than once is shared. -/
def contribute (c : Compiler) (g : Graph) (length : Nat) (consumed : List NodeId)
    (position : Nat) (id : NodeId) (supplies : List (NodeId × Shader.Supply))
    (uniforms : List Float32) : Except GenerateError Contribution := do
  let some node := g.node? id | .error (.missingNode id)
  if node.kind.isOutput != (position + 1 == length) then
    .error (.misplaced node.kind.id id position)
  let (calls, inlines) ← resolveInputs g node supplies 0 node.kind.inputs
  return c.contribution node (1 < consumed.count id) uniforms calls inlines

/-- Take the code of a node up. A function that is not new is not defined again. -/
def record (c : Compiler) (done : Progress) (part : Contribution) (isNew : Bool)
    (names : List (UInt64 × UInt64)) : Progress :=
  let code := part.code
  { supplies := (code.node, part.supply) :: done.supplies
    codes := done.codes ++ [code]
    uniforms := part.uniforms
    library := part.library.foldl Shader.addFunction done.library
    names
    definitions := if isNew then
        done.definitions ++ c.functionDefinition code.name code.type code.body
      else done.definitions
    expression := if part.isOutput then part.inline "p" else done.expression }

/-- Generate the code of one node and claim a name for its function. -/
def generateNode (c : Compiler) (g : Graph) (length : Nat) (consumed : List NodeId)
    (position : Nat) (id : NodeId) (done : Progress) : Except GenerateError Progress := do
  let part ← c.contribute g length consumed position id done.supplies done.uniforms
  let code := part.code
  match claim done.names code.name code.body with
  | some (isNew, names) => return c.record done part isNew names
  | none => .error (.nameConflict code.kind id code.name code.body)

/-- Why a generation stopped, and the names it had claimed by then. -/
structure Stop where
  error : GenerateError
  names : List (UInt64 × UInt64)
  deriving DecidableEq, Repr

/-- Generate the code of the nodes from a position on. -/
def generateFrom (c : Compiler) (g : Graph) (length : Nat) (consumed : List NodeId)
    (position : Nat) : List NodeId → Progress → Except Stop Progress
  | [], done => .ok done
  | id :: rest, done =>
      match c.generateNode g length consumed position id done with
      | .error error => .error ⟨error, done.names⟩
      | .ok next => generateFrom c g length consumed (position + 1) rest next

/-- Forget the names that were claimed before. -/
def clear (c : Compiler) : Compiler := { c with names := [] }

/-- Code is not finished if library functions conflict. -/
def checkLibrary (done : Progress) : Except Stop Progress :=
  match Shader.conflict? done.library with
  | some name => .error ⟨.libraryConflict name, done.names⟩
  | none => .ok done

/-- Generate the code of all nodes of an order. The names of earlier generations are forgotten as
soon as there is anything to generate. -/
def finish (c : Compiler) (g : Graph) (order : List NodeId) : Except Stop Progress :=
  if order = [] then .error ⟨.emptyOrder, c.names⟩
  else
    let c := c.clear
    c.generateFrom g order.length (g.consumed order) 0 order { names := c.names } >>= checkLibrary

/-- What the source is written from: the uniform array, the library and the node functions. -/
def pieces (c : Compiler) (done : Progress) : List String :=
  let uniforms := if c.mode = .uniform ∧ done.uniforms ≠ []
    then [c.uniformDeclaration (done.uniforms.length / 4)] else []
  let library := done.library.map fun f =>
    (if c.dialect = .wgsl then f.wgsl else f.glsl) ++ "\n\n"
  uniforms ++ library ++ [done.definitions]

/-- Write the source over what was written before. -/
def write (c : Compiler) (done : Progress) : Shader.Scratch :=
  (c.pieces done).foldl Shader.Scratch.append c.scratch.reset

/-- The shader with a number that is made of finished code. -/
def shaderOf (c : Compiler) (done : Progress) (generation : Nat) : Shader :=
  { generation
    dialect := c.dialect
    mode := c.mode
    nodes := done.codes
    source := (c.write done).text
    expression := done.expression
    uniforms := done.uniforms }

/-- The compiler after it has made a shader of finished code. What it has written stays in the
cells of its buffer. -/
def advance (c : Compiler) (done : Progress) : Compiler :=
  { c with generation := c.generation + 1, names := done.names, scratch := (c.write done).reset }

/-- Generate a shader for the nodes of an order that ends in the output node. The generation
counts only shaders that were completed; a generation that stops leaves its names behind. -/
def generate (c : Compiler) (g : Graph) (order : List NodeId) :
    Except GenerateError Shader × Compiler :=
  match c.finish g order with
  | .error stop => (.error stop.error, { c with names := stop.names })
  | .ok done => (.ok (c.shaderOf done (c.generation + 1)), c.advance done)

end Compiler

end FieldGraph
