import FieldGraph.Wgsl.Check
import FieldGraph.Wgsl.Reader

/-!
# Modules of the WebGPU shading language

A module is accepted when its text is a sequence of declarations in which every name is declared
and every part of a value is there. What is kept of an accepted module is its interface: how many
functions it has, which resources it binds and its compute entry point.
-/

namespace FieldGraph.Wgsl

/-- The interface of a module. -/
structure Module where
  /-- Number of functions. -/
  functions : Nat
  /-- Bound resources in ascending order. -/
  bindings : List Nat
  /-- The compute entry point with the size of its work group. -/
  entry : Option (String × Nat)
  deriving DecidableEq, Repr

/-- The number of the named attribute. -/
def Attribute.numberOf? (list : List Attribute) (name : String) : Option Nat :=
  (list.find? (·.name == name)).bind fun a =>
    match a.arguments with
    | .number text :: _ => wholeNumber? text
    | _ => none

namespace Module

/-- Add a declaration to the interface of a module. A work group whose size does not fit into 32
bits has one member. -/
def add (m : Module) : Declaration → Module
  | .global attributes _ _ _ _ =>
      { m with bindings := m.bindings ++ (Attribute.numberOf? attributes "binding").toList }
  | .function f =>
      let size := (Attribute.numberOf? f.attributes "workgroup_size").filter (· < Nat.pow 2 32)
      { m with
        functions := m.functions + 1
        entry := if f.attributes.any (·.name == "compute") then some (f.name, size.getD 1)
          else m.entry }
  | _ => m

/-- Read a module. -/
def read? (text : String) : Option Module := do
  let declarations ← Declaration.list? text
  let scope := Scope.ofModule declarations
  if !declarations.all scope.acceptsDeclaration then none
  let m := declarations.foldl add ⟨0, [], none⟩
  return { m with bindings := m.bindings.mergeSort (· ≤ ·) }

end Module

end FieldGraph.Wgsl
