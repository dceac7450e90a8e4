import FieldGraph.Shader.Program
import FieldGraph.Wgsl.Module

/-!
# Compiled compute programs

The compute program of a shader in the WebGPU language can be compiled to a binary module.
Compiling needs a shader, in that language, whose program is accepted; what is known of the
result is the interface of the module.
-/

namespace FieldGraph.Shader

/-- Why a program was not compiled. -/
inductive CompileFault where
  | noShader
  | wrongDialect (got : Dialect)
  /-- The program is not well formed. -/
  | rejected
  deriving DecidableEq, Repr

/-- The text of a compile fault. -/
def CompileFault.message : CompileFault → String
  | noShader => "nil shader"
  | wrongDialect got => "wgslc: want " ++ Dialect.wgsl.name ++ " shader, got " ++ got.name
  | rejected => "wgslc: failed to compile shader"

/-- Compile the compute program of a shader. -/
def compileCompute (s : Option Shader) (workGroup : Nat) : Except CompileFault Wgsl.Module :=
  match s with
  | none => .error .noShader
  | some s =>
      if s.dialect ≠ .wgsl then .error (.wrongDialect s.dialect)
      else match Wgsl.Module.read? (s.computeText workGroup) with
        | some m => .ok m
        | none => .error .rejected

end FieldGraph.Shader
