import FieldGraph.Image.Png
import FieldGraph.Wgsl.Module

/-!
# What is written

Texts, compiled modules and pictures, and the bytes they are written as. Of a compiled module only
the interface is known, so a description of that is written.
-/

namespace FieldGraph

/-- Something to write to a file or to the standard output. -/
inductive Artifact where
  | text (content : String)
  /-- A compiled module, by its interface. -/
  | module (interface : Wgsl.Module)
  /-- Rows of pixels. -/
  | picture (rows : List (List Colour))
  deriving DecidableEq, Repr

namespace Artifact

/-- The interface of a module in words. -/
def description (m : Wgsl.Module) : String :=
  let (entry, size) := m.entry.getD ("", 1)
  "entry point " ++ entry ++ "\nwork group size " ++ toString size ++ "\nbindings" ++
    String.join (m.bindings.map fun n => " " ++ toString n) ++ "\nfunctions " ++
    toString m.functions ++ "\n"

/-- The bytes that are written. -/
def bytes : Artifact → ByteArray
  | text content => content.toUTF8
  | module interface => (description interface).toUTF8
  | picture rows => Png.encode rows

end Artifact

end FieldGraph
