import FieldGraph.File.Directory
import FieldGraph.Session.Record

/-!
# Hosts

What the command needs from the system it runs on, and a host that keeps everything in memory.
-/

namespace FieldGraph.Console

/-- What a command can do outside of itself. -/
structure Host (m : Type → Type) where
  /-- Read a text file. -/
  read : String → m (Except FileError String)
  /-- Make an empty file, in place of one that exists. -/
  create : String → m (Except FileError Unit)
  /-- Write to a file that was made, or to the standard output. -/
  emit : Option String → Artifact → m Unit
  /-- Take a log record. -/
  log : Record → m Unit

/-- A working directory and what was written elsewhere. -/
structure Desk where
  directory : Directory := {}
  /-- What went to the standard output, in order. -/
  printed : List Artifact := []
  /-- The log records, in order. -/
  records : List Record := []
  deriving DecidableEq, Repr

namespace Desk

/-- Make an empty file. -/
def create (path : String) (d : Desk) : Except FileError Unit × Desk :=
  match d.directory.write path (.text "") with
  | .ok directory => (.ok (), { d with directory })
  | .error error => (.error error, d)

/-- Write something. -/
def emit (path : Option String) (a : Artifact) (d : Desk) : Desk :=
  match path with
  | none => { d with printed := d.printed ++ [a] }
  | some path =>
      match d.directory.write path a with
      | .ok directory => { d with directory }
      | .error _ => d

/-- The host that keeps everything in memory. -/
def host : Host (StateM Desk) where
  read path := return (← get).directory.read path
  create path := modifyGet (create path)
  emit path a := modify (emit path a)
  log r := modify fun d => { d with records := d.records ++ [r] }

end Desk

end FieldGraph.Console
