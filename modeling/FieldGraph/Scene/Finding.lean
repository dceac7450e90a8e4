import FieldGraph.Config.Problem

/-!
# Findings about scene texts

A text is refused for what is wrong with it as a piece of the scene language or for what its
blocks mean. A refusal lists all findings.
-/

namespace FieldGraph.Scene

/-- Why a value is not what an argument needs. -/
inductive ValueFault where
  /-- Null, or not known. -/
  | absent
  /-- Not a list of so many numbers. -/
  | notList (length : Nat)
  | nullNumber
  | unknownNumber
  | notNumber
  /-- Beyond the range of double precision. -/
  | outOfRange
  deriving DecidableEq, Repr

/-- The largest double precision number, in full. -/
def largestDouble : String := toString (Nat.pow 2 1024 - Nat.pow 2 971) ++ ".000000"

/-- The text of a value fault. -/
def ValueFault.message : ValueFault → String
  | absent => "Value must be known and not null."
  | notList length => "Want a list of " ++ toString length ++ " numbers."
  | nullNumber => "Want a number: null value is not allowed."
  | unknownNumber => "Want a number: value must be known."
  | notNumber => "Want a number: number value is required."
  | outOfRange =>
      "Want a number: value must be between -" ++ largestDouble ++ " and " ++ largestDouble ++
        " inclusive."

/-- What is wrong with a scene. -/
inductive Problem where
  | language (problem : Config.Problem)
  | duplicateNode (name : String)
  /-- Texts that are not endpoints. -/
  | invalidConnection (texts : List String)
  | unknownNode (name : String)
  | invalidValue (fault : ValueFault)
  deriving DecidableEq, Repr

namespace Problem

/-- The kind of a problem. -/
def summary : Problem → String
  | language problem => problem.summary
  | duplicateNode _ => "Duplicate node"
  | invalidConnection _ => "Invalid connection"
  | unknownNode _ => "Unknown node"
  | invalidValue _ => "Invalid value"

/-- What more there is to say about a problem in a file. -/
def detail (file : String) : Problem → String
  | language problem => problem.detail file
  | duplicateNode name => "A node named " ++ Text.quote name ++ " was already declared."
  | invalidConnection texts =>
      "\n".intercalate (texts.map fun text => "want \"node.port\", got " ++ Text.quote text)
  | unknownNode name => "Connection references undeclared node " ++ Text.quote name ++ "."
  | invalidValue fault => fault.message

end Problem

/-- A problem and the piece of text it is about. -/
structure Finding where
  problem : Problem
  span : Config.Span
  deriving DecidableEq, Repr

namespace Finding

/-- A finding about the language. -/
def ofLanguage (d : Config.Diagnostic) : Finding := ⟨.language d.problem, d.span⟩

/-- The text of a finding in a file. -/
def message (file : String) (f : Finding) : String :=
  f.span.text file ++ ": " ++ f.problem.summary ++ "; " ++ f.problem.detail file

end Finding

/-- The text of a refusal: the first finding in full and the number of others. -/
def findingsMessage (file : String) : List Finding → String
  | [] => "no diagnostics"
  | [f] => f.message file
  | f :: rest =>
      f.message file ++ ", and " ++ toString rest.length ++ " other diagnostic(s)"

end FieldGraph.Scene
