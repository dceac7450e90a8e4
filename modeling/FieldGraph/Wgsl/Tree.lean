/-!
# Trees of shader modules

What the text of a module says, without blanks, comments and precedence. Types are written like
expressions: a name with a template list of types and sizes.
-/

namespace FieldGraph.Wgsl

/-- An expression or a type. -/
inductive Expr where
  /-- A number as it is written. -/
  | number (text : String)
  /-- A name, with the template list after it. -/
  | name (ident : String) (templates : List Expr)
  | call (ident : String) (templates arguments : List Expr)
  | member (of : Expr) (name : String)
  | index (of key : Expr)
  | unary (op : String) (operand : Expr)
  | binary (op : String) (left right : Expr)
  deriving Repr

/-- A statement of a function. -/
inductive Statement where
  /-- A local value, or a variable, which can be assigned to. -/
  | declare (writable : Bool) (name : String) (type value : Option Expr)
  /-- An assignment; the value is dropped if there is no target. -/
  | assign (target : Option Expr) (value : Expr)
  /-- A step of a variable by one. -/
  | step (target : Expr)
  /-- A call whose result is dropped. -/
  | perform (ident : String) (templates arguments : List Expr)
  | giveBack (value : Option Expr)
  /-- Leave the loop or switch, under a condition if there is one. -/
  | leave (condition : Option Expr)
  /-- Go on with the next round of the loop. -/
  | nextRound
  | discard
  | constAssert (condition : Expr)
  | block (body : List Statement)
  | branch (condition : Expr) (whenTrue whenFalse : List Statement)
  /-- A loop: statements before it, its condition, statements after each round that do not see the
  body's names, the body, and statements after each round that do. -/
  | loop (before : List Statement) (condition : Option Expr) (after body tail : List Statement)
  /-- A switch: each case has its selectors, of which none is written as nothing for the default,
  and its body. -/
  | choose (selector : Expr) (cases : List (List (Option Expr) × List Statement))
  deriving Repr

/-- An attribute of a declaration. -/
structure Attribute where
  name : String
  arguments : List Expr
  deriving Repr

/-- A name with its type. -/
structure TypedName where
  name : String
  type : Expr
  deriving Repr

/-- A function of a module. -/
structure Function where
  attributes : List Attribute
  name : String
  parameters : List TypedName
  result : Option Expr
  body : List Statement
  deriving Repr

/-- A declaration of a module. -/
inductive Declaration where
  | record (name : String) (fields : List TypedName)
  | alias (name : String) (type : Expr)
  | global (attributes : List Attribute) (writable : Bool) (name : String)
      (type value : Option Expr)
  | function (f : Function)
  | constAssert (condition : Expr)
  deriving Repr

end FieldGraph.Wgsl
