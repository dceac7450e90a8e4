/-!
# Shading languages and parameter modes

A number that names no language or mode is kept, since texts show it; code for it is written
as for the first one.
-/

namespace FieldGraph

/-- The shading language generated. -/
inductive Dialect where
  | glsl
  | wgsl
  | other (code : Nat)
  deriving DecidableEq, Repr

namespace Dialect

/-- The language with a given number. -/
def ofCode : Nat → Dialect
  | 0 => glsl
  | 1 => wgsl
  | code => other code

/-- The word for a language. -/
def name : Dialect → String
  | glsl => "glsl"
  | wgsl => "wgsl"
  | other code => "Dialect(" ++ toString code ++ ")"

end Dialect

/-- How parameters reach a shader. -/
inductive ParamMode where
  /-- As literals. -/
  | inline
  /-- From a uniform array of four component vectors. -/
  | uniform
  | other (code : Nat)
  deriving DecidableEq, Repr

namespace ParamMode

/-- The mode with a given number. -/
def ofCode : Nat → ParamMode
  | 0 => inline
  | 1 => uniform
  | code => other code

/-- The word for a mode. -/
def name : ParamMode → String
  | inline => "inline"
  | uniform => "uniform"
  | other code => "ParamMode(" ++ toString code ++ ")"

end ParamMode

end FieldGraph
