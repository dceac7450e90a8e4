import FieldGraph.Wgsl.Scope
import FieldGraph.Wgsl.Token

/-!
# Checks of shader modules

A function is accepted when its statements are: their expressions are, only variables are assigned
to, loops are left and gone on with only inside of loops, and switches have one default. Assertions
about constants hold as far as they can be decided.
-/

namespace FieldGraph.Wgsl

/-! ## Constants -/

/-- The digits of a number in a base. -/
def digitsValue (base : Nat) (digits : List Char) : Nat :=
  digits.foldl (fun n c =>
    base * n + if c.isDigit then c.toNat - '0'.toNat else c.toLower.toNat - 'a'.toNat + 10) 0

/-- The whole number that a literal is, if it is one. -/
def wholeNumber? (text : String) : Option Nat :=
  let untyped (chars : List Char) : List Char :=
    if chars.getLast? = some 'i' ∨ chars.getLast? = some 'u' then chars.dropLast else chars
  match text.toList with
  | '0' :: 'x' :: rest | '0' :: 'X' :: rest =>
      let digits := untyped rest
      if digits ≠ [] ∧ digits.all Token.isHexDigit then some (digitsValue 16 digits) else none
  | chars =>
      let digits := untyped chars
      if digits ≠ [] ∧ digits.all Char.isDigit then some (digitsValue 10 digits) else none

/-- The value of a constant expression. -/
inductive Constant where
  | whole (value : Int)
  | truth (value : Bool)
  deriving DecidableEq, Repr

namespace Constant

/-- An operator on constants, where its result is known. -/
def binary? (op : String) : Constant → Constant → Option Constant
  | whole a, whole b =>
      match op with
      | "+" => some (whole (a + b))
      | "-" => some (whole (a - b))
      | "*" => some (whole (a * b))
      | "/" => if b = 0 then none else some (whole (a.tdiv b))
      | "%" => if b = 0 then none else some (whole (a.tmod b))
      | "==" => some (truth (a == b))
      | "!=" => some (truth (a != b))
      | "<" => some (truth (a < b))
      | ">" => some (truth (b < a))
      | "<=" => some (truth (a ≤ b))
      | ">=" => some (truth (b ≤ a))
      | _ => none
  | truth a, truth b =>
      match op with
      | "&&" => some (truth (a && b))
      | "||" => some (truth (a || b))
      | "==" => some (truth (a == b))
      | "!=" => some (truth (a != b))
      | _ => none
  | _, _ => none

/-- The value of an expression, where it is known. -/
def ofExpr? : Expr → Option Constant
  | .number text => (wholeNumber? text).map fun n => whole n
  | .name "true" [] => some (truth true)
  | .name "false" [] => some (truth false)
  | .unary "-" e =>
      match ofExpr? e with
      | some (whole n) => some (whole (-n))
      | _ => none
  | .unary "!" e =>
      match ofExpr? e with
      | some (truth b) => some (truth !b)
      | _ => none
  | .binary op a b => do binary? op (← ofExpr? a) (← ofExpr? b)
  | _ => none

end Constant

/-! ## Statements -/

namespace Scope

/-- Whether an assertion is accepted. -/
def acceptsAssertion (scope : Scope) (e : Expr) : Bool :=
  scope.accepts e && Constant.ofExpr? e != some (.truth false)

/-- Whether an assignment to an expression is accepted. -/
def acceptsTarget (scope : Scope) (e : Expr) : Bool := scope.accepts e && scope.writable e

/-- What statements around a place allow there. -/
structure Surroundings where
  /-- A loop or switch can be left. -/
  inside : Bool := false
  /-- A loop can be gone on with. -/
  inLoop : Bool := false
  deriving DecidableEq, Repr

/-- Inside of a loop. -/
def Surroundings.loop : Surroundings := { inside := true, inLoop := true }

mutual

/-- The names after a statement, if it is accepted. -/
def after? (scope : Scope) (s : Surroundings) : Statement → Option Scope
  | .declare writable name type value => do
      return scope.withValue name (← scope.declared? type value) writable
  | .assign target value =>
      if target.all scope.acceptsTarget && scope.accepts value then some scope else none
  | .step target => if scope.acceptsTarget target then some scope else none
  | .perform ident templates arguments => do
      let _ ← scope.call? ident templates (← scope.shapes? arguments)
      return scope
  | .giveBack value => if scope.acceptsAny value then some scope else none
  | .leave condition => if s.inside && scope.acceptsAny condition then some scope else none
  | .nextRound => if s.inLoop then some scope else none
  | .discard => some scope
  | .constAssert condition => if scope.acceptsAssertion condition then some scope else none
  | .block body => do
      let _ ← afterAll? scope s body
      return scope
  | .branch condition whenTrue whenFalse => do
      if !scope.accepts condition then none
      let _ ← afterAll? scope s whenTrue
      let _ ← afterAll? scope s whenFalse
      return scope
  | .loop before condition after body tail => do
      let outer ← afterAll? scope s before
      if !outer.acceptsAny condition then none
      let _ ← afterAll? outer s after
      let inner ← afterAll? outer .loop body
      let _ ← afterAll? inner { inside := true } tail
      return scope
  | .choose selector cases => do
      if !scope.accepts selector then none
      let chosen := cases.flatMap (·.1)
      if (chosen.filter (·.isNone)).length ≠ 1 then none
      if !chosen.all scope.acceptsAny then none
      afterCases? scope { s with inside := true } cases
      return scope

/-- The names after some statements, if all are accepted. -/
def afterAll? (scope : Scope) (s : Surroundings) : List Statement → Option Scope
  | [] => some scope
  | first :: rest => do afterAll? (← after? scope s first) s rest

/-- Whether the bodies of all cases are accepted. -/
def afterCases? (scope : Scope) (s : Surroundings) :
    List (List (Option Expr) × List Statement) → Option Unit
  | [] => some ()
  | (_, body) :: rest => do
      let _ ← afterAll? scope s body
      afterCases? scope s rest

end

/-- Whether the types of some names are types. -/
def acceptsTypes (scope : Scope) (names : List TypedName) : Bool :=
  names.all fun n => (scope.shapeOf? n.type).isSome

/-- Whether a function is accepted. -/
def acceptsFunction (scope : Scope) (f : Function) : Bool :=
  let inner := f.parameters.foldl
    (fun inner p => inner.withValue p.name ((scope.shapeOf? p.type).getD .unknown) false) scope
  scope.acceptsTypes f.parameters && f.result.all (fun t => (scope.shapeOf? t).isSome) &&
    (inner.afterAll? {} f.body).isSome

/-- Whether a declaration is accepted. -/
def acceptsDeclaration (scope : Scope) : Declaration → Bool
  | .record _ fields => scope.acceptsTypes fields
  | .alias _ type => (scope.shapeOf? type).isSome
  | .global _ _ _ type value => (scope.declared? type value).isSome
  | .function f => scope.acceptsFunction f
  | .constAssert condition => scope.acceptsAssertion condition

end Scope

end FieldGraph.Wgsl
