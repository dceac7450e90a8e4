import FieldGraph.Config.Body.Schema

/-!
# Blocks of a scene text

A scene text holds `node` blocks with a name and a kind and `connect` blocks with two endpoints.
Further arguments of a node are numbers that are evaluated later.
-/

namespace FieldGraph.Scene

open Config

/-- A block that declares a node. -/
structure NodeBlock where
  name : String
  kind : String
  position : Option Argument := none
  xyz : Option Argument := none
  /-- All other arguments in the order of the text. -/
  params : List Argument := []
  /-- The first block inside, which should not be there. -/
  nested : Option (String × Span) := none
  span : Span

/-- A block that links two ports. -/
structure ConnectBlock where
  source : String
  target : String
  span : Span
  deriving DecidableEq, Repr

/-- The blocks of a scene text, by type. -/
structure Blocks where
  nodes : List NodeBlock := []
  connects : List ConnectBlock := []

namespace Blocks

/-- What a scene text may hold. -/
def schema : Schema := { blocks := [("connect", none), ("node", some "name")] }

/-- What a connecting block may hold. -/
def connectSchema : Schema := { required := ["from", "to"] }

/-- The arguments of a node that are not parameters. -/
def reserved : List String := ["kind", "position", "xyz"]

/-- Decode a block that declares a node. -/
def decodeNode (b : Block) : NodeBlock × List Config.Diagnostic :=
  let missing : Schema := { required := ["kind"] }
  let (kind, problems) := b.textOf "kind"
  let node : NodeBlock :=
    { name := (b.labels.head?.map (·.text)).getD ""
      kind
      position := b.argument? "position"
      xyz := b.argument? "xyz"
      params := b.arguments.filter (·.name ∉ reserved)
      nested := b.blocks.head?.map fun inner => (inner.type, inner.typeSpan)
      span := b.span }
  (node, missing.missing b.bodyStart b.arguments ++ problems)

/-- Decode a block that links two ports. -/
def decodeConnect (b : Block) : ConnectBlock × List Config.Diagnostic :=
  let (source, problems) := b.textOf "from"
  let (target, more) := b.textOf "to"
  (⟨source, target, b.span⟩,
    connectSchema.problems b.bodyStart b.arguments b.blocks ++ problems ++ more)

/-- Decode the blocks of a body, unless something is wrong with it. -/
def ofBody (body : Body) : Except (List Config.Diagnostic) Blocks :=
  let nodes := (schema.blocksOf "node" body.blocks).map decodeNode
  let connects := (schema.blocksOf "connect" body.blocks).map decodeConnect
  match schema.problems {} body.arguments body.blocks ++ nodes.flatMap (·.2) ++
      connects.flatMap (·.2) with
  | [] => .ok ⟨nodes.map (·.1), connects.map (·.1)⟩
  | problems => .error problems

end Blocks

end FieldGraph.Scene
