import FieldGraph.Text.Blank

/-!
# Library functions of shaders

A library function carries one source per shading language. It is well formed when both
sources declare it under its own name, where the declared name is what stands between the
first blank and the opening parenthesis of the declaration.
-/

namespace FieldGraph.Shader

/-- A helper function that generated code may call. -/
structure Function where
  /-- The name calls use. -/
  name : String
  /-- Declaration in the OpenGL language. -/
  glsl : String
  /-- Declaration in the WebGPU language. -/
  wgsl : String
  deriving DecidableEq, Repr

/-- Why a library function is refused. -/
inductive Function.Fault where
  | unnamed
  | missingSource (name : String)
  | unreadable
  | emptyDeclaration
  | mismatch (name glsl wgsl : String)
  deriving DecidableEq, Repr

/-- The text of a fault. -/
def Function.Fault.message : Function.Fault → String
  | unnamed => "empty shader function name"
  | missingSource name => "shader function " ++ name ++ " missing dialect source"
  | unreadable => "unable to parse function name"
  | emptyDeclaration => "empty function name"
  | mismatch name glsl wgsl =>
      "shader function name mismatch for " ++ name ++ ": got " ++ glsl ++ " and " ++ wgsl

/-- The name a declaration such as `float name(...)` declares. -/
def declaredName (source : String) : Except Function.Fault String :=
  let declaration := Text.trimBlanks source.toList
  let head := declaration.takeWhile (· ≠ '(')
  if head.length = declaration.length ∨ ' ' ∉ head then .error .unreadable
  else
    match Text.trimBlanks (head.dropWhile (· ≠ ' ')) with
    | [] => .error .emptyDeclaration
    | name => .ok (String.ofList name)

/-- Check that both sources declare the function under its name. -/
def Function.check (f : Function) : Except Function.Fault Unit := do
  if f.name = "" then .error .unnamed
  else if f.glsl = "" ∨ f.wgsl = "" then .error (.missingSource f.name)
  else
    let glsl ← declaredName f.glsl
    let wgsl ← declaredName f.wgsl
    if glsl ≠ f.name ∨ wgsl ≠ f.name then .error (.mismatch f.name glsl wgsl) else .ok ()

end FieldGraph.Shader
