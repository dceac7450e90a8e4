import FieldGraph.Config.Span
import FieldGraph.Config.Value.Basic

/-!
# Expressions of the scene language

The tree of an expression, with the places in the text that messages point at. A comprehension
without a filter is one with the filter `true`, since both keep every item.
-/

namespace FieldGraph.Config

/-- Operators with one operand. -/
inductive UnaryOp where
  | negate
  | not
  deriving DecidableEq, Repr

/-- Operators with two operands. -/
inductive BinaryOp where
  | or
  | and
  | equal
  | notEqual
  | greater
  | greaterEqual
  | less
  | lessEqual
  | add
  | subtract
  | multiply
  | divide
  | remainder
  deriving DecidableEq, Repr

namespace BinaryOp

/-- The symbol of an operator. -/
def symbol : BinaryOp → String
  | or => "||"
  | and => "&&"
  | equal => "=="
  | notEqual => "!="
  | greater => ">"
  | greaterEqual => ">="
  | less => "<"
  | lessEqual => "<="
  | add => "+"
  | subtract => "-"
  | multiply => "*"
  | divide => "/"
  | remainder => "%"

/-- The operators by how tightly they bind, loosest first. -/
def levels : List (List BinaryOp) :=
  [[or], [and], [equal, notEqual], [greater, greaterEqual, less, lessEqual], [add, subtract],
    [multiply, divide, remainder]]

end BinaryOp

/-- The names a comprehension gives to the items it goes over. -/
structure ItemNames where
  key : Option String
  value : String
  deriving DecidableEq, Repr

/-- One step from a value to a part of it, with its place. -/
inductive Step where
  /-- By name. -/
  | member (name : String) (span : Span)
  /-- By a key that is written out. -/
  | element (key : Value) (span : Span)
  deriving Repr

/-- The place of a step. -/
def Step.span : Step → Span
  | member _ span | element _ span => span

/-- An expression. The last span of each form is the whole of it. -/
inductive Expr where
  | literal (value : Value) (span : Span)
  /-- A value with a name of its own, such as `true`. -/
  | constant (name : String) (value : Value) (span : Span)
  /-- A variable and the steps from it. -/
  | path (root : String) (rootSpan : Span) (steps : List Step) (span : Span)
  /-- Steps from another expression. -/
  | relative (source : Expr) (steps : List Step) (span : Span)
  /-- A part by key, with the places of the opening bracket and of both brackets. -/
  | element (of key : Expr) (opening brackets span : Span)
  /-- What an expression is for each item of a sequence; the marker is the star. -/
  | splat (source each : Expr) (marker span : Span)
  /-- The item of the sequence that a splat goes over. -/
  | item (span : Span)
  /-- A call of a function. There are none, so what it is applied to does not matter. -/
  | call (head span : Span)
  | unary (op : UnaryOp) (operand : Expr) (symbol span : Span)
  | binary (op : BinaryOp) (left right : Expr) (span : Span)
  | conditional (condition whenTrue whenFalse : Expr) (span : Span)
  | tuple (items : List Expr) (opening span : Span)
  /-- An object by its keys and values, in the same order. -/
  | object (keys values : List Expr) (opening span : Span)
  /-- A tuple with one item for each kept item of a collection. -/
  | listing (names : ItemNames) (collection value filter : Expr) (opening span : Span)
  /-- An object with one entry for each kept item of a collection, or for each group of items
  of one key. -/
  | mapping (names : ItemNames) (collection key value filter : Expr) (grouped : Bool)
      (opening span : Span)
  /-- Text made of parts, of which there is at least one. -/
  | template (parts : List Expr) (span : Span)
  /-- The texts of a tuple, one after the other. -/
  | joined (items : Expr)
  /-- An expression that is all of a string. -/
  | quoted (inner : Expr) (span : Span)
  /-- An expression in parentheses. -/
  | enclosed (inner : Expr) (span : Span)
  deriving Repr

namespace Expr

instance : Inhabited Expr := ⟨literal .nothing {}⟩

/-- What stands in for an expression that could not be read. -/
def missing (span : Span) : Expr := literal .anything span

/-- The whole of an expression. -/
def span : Expr → Span
  | literal _ s | constant _ _ s | path _ _ _ s | relative _ _ s | element _ _ _ _ s
  | splat _ _ _ s | item s | call _ s | unary _ _ _ s | binary _ _ _ s | conditional _ _ _ s
  | tuple _ _ s | object _ _ _ s | listing _ _ _ _ _ s | mapping _ _ _ _ _ _ _ s
  | template _ s | quoted _ s | enclosed _ s => s
  | joined items => items.span

mutual

/-- The piece of an expression that stands for its start. -/
def startSpan : Expr → Span
  | literal _ s | constant _ _ s | path _ s _ _ | relative _ _ s | item s | quoted _ s
  | element _ _ s _ _ | splat _ _ s _ | call s _ | unary _ _ s _ | tuple _ s _ | object _ _ s _
  | listing _ _ _ _ s _ | mapping _ _ _ _ _ _ s _ => s
  | binary _ left _ _ => left.startSpan
  | conditional condition _ _ _ => condition.startSpan
  | template parts s => firstStart s parts
  | joined items => items.startSpan
  | enclosed inner _ => inner.startSpan

/-- The piece that stands for the start of a row, if it has an expression. -/
def firstStart (fallback : Span) : List Expr → Span
  | [] => fallback
  | first :: _ => first.startSpan

end

/-- The value of a key that is written out. -/
def writtenKey? : Expr → Option Value
  | literal v _ | constant _ v _ => some v
  | template [literal v _] _ => some v
  | _ => none

/-- An expression with one more step after it. -/
def andStep (e : Expr) (step : Step) : Expr :=
  match e with
  | path root rootSpan steps s => path root rootSpan (steps ++ [step]) (s.cover step.span)
  | relative source steps s => relative source (steps ++ [step]) (s.cover step.span)
  | e => relative e [step] (e.span.cover step.span)

/-- The part of an expression for a key in brackets. -/
def andKey (e key : Expr) (opening brackets : Span) : Expr :=
  match key.writtenKey? with
  | some v => e.andStep (.element v brackets)
  | none => element e key opening brackets (e.span.cover brackets)

/-- The name that a bare word means as a key of an object. -/
def bareKey? : Expr → Option String
  | constant name _ _ | path name _ [] _ => some name
  | _ => none

/-- Whether a key of an object could be a name with points or a reference. -/
def isAmbiguousKey : Expr → Bool
  | path _ _ (_ :: _) _ => true
  | _ => false

end Expr

end FieldGraph.Config
