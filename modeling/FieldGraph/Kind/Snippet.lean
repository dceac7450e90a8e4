/-!
# Shader expression text

Templates build expressions as text. An operand is parenthesised unless it is an atom: a
name, a literal, an indexed or swizzled name, or a single call, optionally swizzled. The test
is one scan that tracks bracket depth: outside brackets only the characters of names and
numbers may occur, and nothing but a swizzle may follow the first closed call.
-/

namespace FieldGraph.Snippet

/-- The characters of names, numbers and component selections. -/
def isWordChar (c : Char) : Bool :=
  c == '_' || c == '.' || ('a' ≤ c && c ≤ 'z') || ('A' ≤ c && c ≤ 'Z') || ('0' ≤ c && c ≤ '9')

/-- A selectable vector component. -/
def isComponent (c : Char) : Bool := c == 'x' || c == 'y' || c == 'z' || c == 'w'

/-- A point followed by at least one component. -/
def isSwizzle : List Char → Bool
  | '.' :: c :: rest => (c :: rest).all isComponent
  | _ => false

/-- The scan of the atom test from a bracket depth on. -/
def atomFrom (depth : Int) : List Char → Bool
  | [] => depth == 0
  | c :: rest =>
      if c = '(' ∨ c = '[' then atomFrom (depth + 1) rest
      else if c = ')' ∨ c = ']' then
        if depth - 1 = 0 ∧ c = ')' ∧ rest ≠ [] then isSwizzle rest
        else atomFrom (depth - 1) rest
      else if 0 < depth then atomFrom depth rest
      else if isWordChar c then atomFrom depth rest
      else false

/-- Whether an expression may stand as an operand without parentheses. -/
def isAtom (expr : String) : Bool :=
  match expr.toList with
  | [] => false
  | chars => atomFrom 0 chars

/-- An expression as an operand. -/
def paren (expr : String) : String := if isAtom expr then expr else "(" ++ expr ++ ")"

/-- Select components of a vector expression. -/
def swizzle (vector components : String) : String := paren vector ++ "." ++ components

/-- A call. -/
def call (function : String) (arguments : List String) : String :=
  function ++ "(" ++ ",".intercalate arguments ++ ")"

/-- A spatial vector. -/
def vec3 (x y z : String) : String := call "vec3" [x, y, z]

end FieldGraph.Snippet
