import FieldGraph.Wgsl.Shape

/-!
# Names in shader modules

Types, functions and variables of a module can be used anywhere in it, parameters and local names
after their declaration. An expression is accepted when all its names are declared, calls have the
right number of arguments, and the parts it asks values for are there. Entry points cannot be
called.
-/

namespace FieldGraph.Wgsl

/-- A named value. -/
structure Binding where
  shape : Shape
  /-- Whether it can be assigned to. -/
  writable : Bool

/-- What a call of a function needs to know: how many arguments there are, and the type of the
result. -/
structure Signature where
  arity : Nat
  result : Option Expr

/-- The names that may be used at a place. -/
structure Scope where
  records : List (String × List TypedName) := []
  aliases : List (String × Expr) := []
  functions : List (String × Signature) := []
  values : List (String × Binding) := []

namespace Scope

/-- Add a value. -/
def withValue (scope : Scope) (name : String) (shape : Shape) (writable : Bool) : Scope :=
  { scope with values := (name, ⟨shape, writable⟩) :: scope.values }

/-- Whether an item of a template list that is no type is a size, a known word or a value. -/
def isParameter (scope : Scope) : Expr → Bool
  | .number _ | .binary _ _ _ | .unary _ _ | .call _ _ _ => true
  | .name ident [] => ident ∈ Shape.enumerants || (scope.values.lookup ident).isSome
  | _ => false

/-- The shape of the values of a type, if it is one. Each alias takes one unit of fuel. -/
def shapeOfType? (scope : Scope) : Nat → Expr → Option Shape
  | 0, _ => none
  | fuel + 1, .name ident templates => do
      let inner ← templates.mapM fun t =>
        match shapeOfType? scope fuel t with
        | some shape => some shape
        | none => if scope.isParameter t then some .unknown else none
      if (scope.records.lookup ident).isSome then some (.record ident)
      else match scope.aliases.lookup ident with
        | some type => shapeOfType? scope fuel type
        | none =>
            if ident = "array" then some (.array (inner.headD .unknown))
            else if ident = "ptr" then some (.pointer ((inner[1]?).getD .unknown))
            else if ident ∈ Shape.resources then some .handle
            else (Shape.numeric ++ Shape.plain).lookup ident
  | _, _ => none

/-- More than the nesting of types in a module that can be used. -/
def typeDepth (scope : Scope) : Nat := scope.aliases.length + 64

/-- The shape of the values of a type, if it is one. -/
def shapeOf? (scope : Scope) (type : Expr) : Option Shape :=
  scope.shapeOfType? scope.typeDepth type

/-- The named part of a value. -/
def member? (scope : Scope) (name : String) : Shape → Option Shape
  | .unknown => some .unknown
  | .vector size => Shape.swizzle? size name
  | .parts names each => if name ∈ names then some each else none
  | .pointer target => member? scope name target
  | .record record => do
      let fields ← scope.records.lookup record
      let field ← fields.find? (·.name == name)
      scope.shapeOf? field.type
  | _ => none

/-- The result of a call with arguments of some shapes: of a function of the module, of a
predeclared function, or of the constructor of a type. Functions may have none. -/
def call? (scope : Scope) (ident : String) (templates : List Expr) (arguments : List Shape) :
    Option (Option Shape) :=
  match scope.functions.lookup ident, Shape.familyOf? ident with
  | some signature, _ =>
      if signature.arity = arguments.length then signature.result.mapM scope.shapeOf? else none
  | none, some family =>
      if family.arity.all (· = arguments.length) then some (family.rule.apply arguments) else none
  | none, none =>
      if ident = "bitcast" then (templates.head?.bind scope.shapeOf?).map some
      else if ident = "array" ∧ templates.isEmpty then
        some (some (.array (arguments.headD .unknown)))
      else (scope.shapeOf? (.name ident templates)).map some

mutual

/-- The shape of an expression, if it is accepted. -/
def shape? (scope : Scope) : Expr → Option Shape
  | .number _ => some .scalar
  | .name ident [] =>
      match scope.values.lookup ident with
      | some binding => some binding.shape
      | none => if ident = "true" ∨ ident = "false" then some .scalar else none
  | .name _ _ => none
  | .call ident templates arguments => do
      (← scope.call? ident templates (← shapes? scope arguments))
  | .member e name => do scope.member? name (← shape? scope e)
  | .index e key => do
      let _ ← shape? scope key
      Shape.item? (← shape? scope e)
  | .unary op e => return Shape.ofUnary op (← shape? scope e)
  | .binary op a b => return Shape.ofBinary op (← shape? scope a) (← shape? scope b)

/-- The shapes of a row of expressions, if all are accepted. -/
def shapes? (scope : Scope) : List Expr → Option (List Shape)
  | [] => some []
  | e :: rest => return (← shape? scope e) :: (← shapes? scope rest)

end

/-- The shape of a declared value: that of its type, or else that of its value. -/
def declared? (scope : Scope) (type value : Option Expr) : Option Shape := do
  let written ← match type with
    | some t => some <$> scope.shapeOf? t
    | none => some none
  let given ← match value with
    | some e => some <$> scope.shape? e
    | none => some none
  return written.getD (given.getD .unknown)

/-- Whether an expression is accepted. -/
def accepts (scope : Scope) (e : Expr) : Bool := (scope.shape? e).isSome

/-- Whether an expression denotes something that can be assigned to. -/
def writable (scope : Scope) : Expr → Bool
  | .name ident [] => (scope.values.lookup ident).any (·.writable)
  | .member e _ | .index e _ => writable scope e || (scope.shape? e).any (·.mayPoint)
  | .unary "*" _ => true
  | _ => false

/-- Whether an optional expression is accepted. -/
def acceptsAny (scope : Scope) (e : Option Expr) : Bool := e.all scope.accepts

/-- The names declared by a module. Variables without a type have the shape of their value as far
as it does not depend on other such variables. -/
def ofModule (declarations : List Declaration) : Scope :=
  let isEntry (f : Function) : Bool :=
    f.attributes.any fun a => a.name ∈ ["compute", "vertex", "fragment"]
  let base : Scope := declarations.foldr
    (fun d scope => match d with
      | .record name fields => { scope with records := (name, fields) :: scope.records }
      | .alias name type => { scope with aliases := (name, type) :: scope.aliases }
      | .function f =>
          if isEntry f then scope
          else
            let signature : Signature := ⟨f.parameters.length, f.result⟩
            { scope with functions := (f.name, signature) :: scope.functions }
      | .global _ writable name _ _ => scope.withValue name .unknown writable
      | .constAssert _ => scope) {}
  let values := declarations.filterMap fun d => match d with
    | .global _ writable name type value =>
        some (name, ⟨(base.declared? type value).getD .unknown, writable⟩)
    | _ => none
  { base with values }

end Scope

end FieldGraph.Wgsl
