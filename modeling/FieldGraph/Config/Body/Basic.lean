import FieldGraph.Config.Expr.Basic

/-!
# Bodies of the scene language

A body is a sequence of arguments and blocks; a block has a type, labels and a body.
-/

namespace FieldGraph.Config

/-- A named expression. -/
structure Argument where
  name : String
  expr : Expr
  nameSpan : Span
  /-- From the name through the value. -/
  span : Span
  deriving Repr

/-- A label of a block. -/
structure Label where
  text : String
  span : Span
  deriving DecidableEq, Repr

/-- A block with what its braces hold. -/
structure Block where
  type : String
  typeSpan : Span
  labels : List Label
  /-- The opening brace. -/
  opening : Span
  arguments : List Argument
  blocks : List Block
  /-- Where the body starts. -/
  bodyStart : Position
  deriving Repr

/-- The arguments and blocks of a file. -/
structure Body where
  arguments : List Argument := []
  blocks : List Block := []
  deriving Repr

/-- The header of a block: its type through its last label. -/
def Block.span (b : Block) : Span :=
  match b.labels.getLast? with
  | some label => b.typeSpan.cover label.span
  | none => b.typeSpan

/-- The argument of a name. -/
def Block.argument? (b : Block) (name : String) : Option Argument :=
  b.arguments.find? (·.name == name)

end FieldGraph.Config
