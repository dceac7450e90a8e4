import FieldGraph.Config.Body.Basic
import FieldGraph.Config.Expr.Eval

/-!
# What a body may hold

A schema names the arguments and blocks that a body may or must have. Checking a body against a
schema yields the problems with it; an argument that has to be text is evaluated and converted.
-/

namespace FieldGraph.Config

/-- What a body may hold. -/
structure Schema where
  /-- Arguments that must be there. -/
  required : List String := []
  /-- Block types, each with the name of its label if it has one. -/
  blocks : List (String × Option String) := []
  deriving DecidableEq, Repr

namespace Schema

/-- Arguments that are required and not there, reported where a body starts. -/
def missing (s : Schema) (start : Position) (arguments : List Argument) : List Diagnostic :=
  (s.required.filter fun name => arguments.all (·.name ≠ name)).map fun name =>
    ⟨.missingArgument name, ⟨start, start⟩⟩

/-- Arguments that the schema does not have. The hint names a missing argument that is spelt
like it, or a block of its name. -/
def foreignArguments (s : Schema) (arguments : List Argument) : List Diagnostic :=
  (arguments.filter fun a => a.name ∉ s.required).map fun a =>
    let free := s.required.filter fun name => arguments.all (·.name ≠ name)
    let hint := match Text.similar? a.name free with
      | some name => Problem.hint (some name)
      | none =>
          if s.blocks.any (·.1 == a.name) then
            " Did you mean to define a block of type " ++ Text.quote a.name ++ "?"
          else ""
    ⟨.unsupportedArgument a.name hint, a.nameSpan⟩

/-- Blocks that the schema does not have. -/
def foreignBlocks (s : Schema) (blocks : List Block) : List Diagnostic :=
  (blocks.filter fun b => s.blocks.all (·.1 ≠ b.type)).map fun b =>
    let hint := match Text.similar? b.type (s.blocks.map (·.1)) with
      | some name => Problem.hint (some name)
      | none =>
          if b.type ∈ s.required then
            " Did you mean to define argument " ++ Text.quote b.type ++
              "? If so, use the equals sign to assign it a value."
          else ""
    ⟨.unsupportedBlock b.type hint, b.typeSpan⟩

/-- The problem with the labels of a block of the schema, if there is one. -/
def labelProblem? (b : Block) : Option String → Option Diagnostic
  | none =>
      b.labels.head?.map fun label => ⟨.extraLabel none b.type, label.span⟩
  | some name =>
      match b.labels with
      | [] => some ⟨.missingLabel name b.type, b.opening⟩
      | [_] => none
      | _ :: second :: _ => some ⟨.extraLabel (some name) b.type, second.span⟩

/-- The blocks of a type whose labels are right. -/
def blocksOf (s : Schema) (type : String) (blocks : List Block) : List Block :=
  blocks.filter fun b =>
    b.type == type && (s.blocks.any fun (t, label) => t == type && (labelProblem? b label).isNone)

/-- Problems with the labels of blocks. -/
def labelProblems (s : Schema) (blocks : List Block) : List Diagnostic :=
  blocks.filterMap fun b => (s.blocks.lookup b.type).bind (labelProblem? b)

/-- Everything that is wrong with a body. -/
def problems (s : Schema) (start : Position) (arguments : List Argument) (blocks : List Block) :
    List Diagnostic :=
  s.missing start arguments ++ s.labelProblems blocks ++ s.foreignArguments arguments ++
    s.foreignBlocks blocks

end Schema

/-- The text that an argument denotes, with the problems of reading it as such. -/
def Argument.text (a : Argument) : String × List Diagnostic :=
  let (v, problems) := a.expr.eval .standard
  let fail (reason : String) : String × List Diagnostic :=
    ("", problems ++ [⟨.unsuitable reason, a.expr.startSpan⟩])
  match v.toText with
  | .ok (.text s) => (s, problems)
  | .ok (.null _) => fail "null value is not allowed"
  | .ok _ => fail "value must be known"
  | .error reason => fail reason

/-- The text of a block's argument, empty if it is missing. -/
def Block.textOf (b : Block) (name : String) : String × List Diagnostic :=
  match b.argument? name with
  | some a => a.text
  | none => ("", [])

end FieldGraph.Config
