import FieldGraph.Config.Body.Reader
import FieldGraph.Scene.Basic
import FieldGraph.Scene.Blocks
import FieldGraph.Scene.Finding

/-!
# Scenes from blocks

Every block becomes one declaration or link. Names are declared once, endpoints name a declared
node, and numeric arguments evaluate to numbers; otherwise all findings are returned. The
arguments `xyz` set the parameters `x`, `y` and `z`, before the parameters set one by one.
-/

namespace FieldGraph.Scene

open Config (Value Argument Span)

/-- The single precision float that a value is. A list or map is not a number even if it is
null. -/
def singleOf : Value → Except ValueFault Float32
  | .null type => .error (if type.isList || type.isMap then .notNumber else .nullNumber)
  | .unknown _ _ => .error .unknownNumber
  | .number n =>
      match n.toSingle? with
      | some x => .ok x
      | none => .error .outOfRange
  | _ => .error .notNumber

/-- The values of a list of `length` numbers. -/
def itemsOf (length : Nat) : Value → Except ValueFault (List Value)
  | .tuple items | .list _ items =>
      if items.length = length then .ok items else .error (.notList length)
  | _ => .error (.notList length)

/-- The number that a value is. -/
def numberOf : Value → Except ValueFault Float32
  | .null _ | .unknown _ _ => .error .absent
  | v => singleOf v

/-- The list of `length` numbers that a value is. -/
def numbersOf (length : Nat) : Value → Except ValueFault (List Float32)
  | .null _ | .unknown _ _ => .error .absent
  | v => do (← itemsOf length v).mapM singleOf

/-- Evaluate an argument and read its value. -/
def evaluate {α : Type} (a : Argument) (read : Value → Except ValueFault α) :
    Except (List Finding) α :=
  match a.expr.eval .standard with
  | (v, []) =>
      match read v with
      | .ok x => .ok x
      | .error fault => .error [⟨.invalidValue fault, a.expr.span⟩]
  | (_, problems) => .error (problems.map .ofLanguage)

/-- The findings of an attempt. -/
def findingsOf {α : Type} : Except (List Finding) α → List Finding
  | .ok _ => []
  | .error findings => findings

namespace NodeBlock

/-- The place of a node. -/
def place (b : NodeBlock) : Except (List Finding) Vec2 :=
  match b.position with
  | none => .ok {}
  | some a => do
      match ← evaluate a (numbersOf 2) with
      | [x, y] => return ⟨x, y⟩
      | _ => return {}

/-- The parameters set by one argument together. -/
def axes (b : NodeBlock) : Except (List Finding) (List Param) :=
  match b.xyz with
  | none => .ok []
  | some a => do
      let values ← evaluate a (numbersOf 3)
      return (["x", "y", "z"].zip values).map fun (name, value) => ⟨name, value, a.span⟩

/-- The parameter set by an argument. -/
def param (a : Argument) : Except (List Finding) Param := do
  return ⟨a.name, ← evaluate a numberOf, a.span⟩

/-- The declaration of a block and all findings about it. -/
def declare (b : NodeBlock) : Declaration × List Finding :=
  let nested := b.nested.toList.map fun (type, span) =>
    (⟨.language (.unexpectedBlock type), span⟩ : Finding)
  let params := b.params.map param
  ({ name := b.name
     kind := b.kind
     position := b.place.toOption.getD {}
     params := b.axes.toOption.getD [] ++ params.filterMap (·.toOption)
     span := b.span },
    findingsOf b.place ++ findingsOf b.axes ++ nested ++ params.flatMap findingsOf)

end NodeBlock

/-- The declarations of some blocks after names that are taken. A name that is taken already is a
finding, and its block is passed over. -/
def declareAll (taken : List String) : List NodeBlock → List Declaration × List Finding
  | [] => ([], [])
  | b :: rest =>
      if b.name ∈ taken then
        let (nodes, findings) := declareAll taken rest
        (nodes, ⟨.duplicateNode b.name, b.span⟩ :: findings)
      else
        let (node, found) := b.declare
        let (nodes, findings) := declareAll (b.name :: taken) rest
        (node :: nodes, found ++ findings)

namespace ConnectBlock

/-- The link of a block among declared names, and all findings about it. -/
def link (names : List String) (b : ConnectBlock) : Option Link × List Finding :=
  match Endpoint.ofText? b.source, Endpoint.ofText? b.target with
  | some source, some target =>
      let unknown := [source, target].filter (·.node ∉ names)
      (some ⟨source, target, b.span⟩, unknown.map fun e => ⟨.unknownNode e.node, b.span⟩)
  | _, _ =>
      let texts := [b.source, b.target].filter fun text => (Endpoint.ofText? text).isNone
      (none, [⟨.invalidConnection texts, b.span⟩])

end ConnectBlock

/-- The scene of some blocks, or what is wrong with them. -/
def ofBlocks (blocks : Blocks) : Except (List Finding) Scene :=
  let (nodes, findings) := declareAll [] blocks.nodes
  let links := blocks.connects.map (ConnectBlock.link (blocks.nodes.map (·.name)))
  match findings ++ links.flatMap (·.2) with
  | [] => .ok ⟨nodes, links.filterMap (·.1)⟩
  | findings => .error findings

/-- Read a scene from a body. -/
def ofBody (body : Config.Body) : Except (List Finding) Scene :=
  match Blocks.ofBody body with
  | .ok blocks => ofBlocks blocks
  | .error problems => .error (problems.map .ofLanguage)

/-- Read a scene from its text. -/
def ofText (source : String) : Except (List Finding) Scene :=
  match Config.Body.ofText source with
  | (body, []) => ofBody body
  | (_, problems) => .error (problems.map .ofLanguage)

end FieldGraph.Scene
