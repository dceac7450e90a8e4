import FieldGraph.File.Artifact
import FieldGraph.File.Error

/-!
# Directories in memory

A working directory with files by their relative paths. Of what lies outside of it only the root,
the device that holds nothing and the directories above are known; those are taken to be empty,
and what is written there is lost. Paths are resolved part by part, as a system would do it.
-/

namespace FieldGraph

/-- A working directory. -/
structure Directory where
  files : List (String × Artifact) := []
  deriving DecidableEq, Repr

namespace Directory

/-- A directory that a path passes. -/
inductive Passage where
  /-- A directory at or below the working directory: the names on the way, the last one first. -/
  | inside (names : List String)
  /-- Some directory above the working directory. -/
  | above
  /-- The root of the system. -/
  | root
  /-- The directory of devices. -/
  | devices
  deriving DecidableEq, Repr

/-- What a path leads to. -/
inductive Place where
  | directory
  | file (name : String)
  /-- Nothing, in a directory that exists; the name it would get. -/
  | free (name : String)
  /-- Nothing, in a directory outside of the working directory. -/
  | elsewhere
  /-- The device that holds nothing and keeps nothing. -/
  | void
  deriving DecidableEq, Repr

/-- How many bytes a part of a path may have. -/
def partLimit : Nat := 255

/-- How many bytes a path has to stay below. -/
def pathLimit : Nat := 4096

/-- The parts of a path. -/
def parts (path : String) : List String := (path.splitOn "/").filter (· ≠ "")

/-- Whether a path has to be that of a directory. -/
def endsInSlash (path : String) : Bool := path.toList.getLast? = some '/'

/-- Whether some file lies in a directory of this name. -/
def hasInside (d : Directory) (name : String) : Bool :=
  d.files.any fun (file, _) => (name ++ "/").toList.isPrefixOf file.toList

/-- The path of names, the last one first. -/
def pathOf (names : List String) : String := "/".intercalate names.reverse

/-- The directory above. -/
def Passage.parent : Passage → Passage
  | inside [] => above
  | inside (_ :: names) => inside names
  | above => above
  | root | devices => root

/-- What a name is in a directory: a directory to pass on, or else the place at the end. -/
def step (d : Directory) (here : Passage) (name : String) : Passage ⊕ Place :=
  match here with
  | .inside names =>
      let path := pathOf (name :: names)
      if d.hasInside path then .inl (.inside (name :: names))
      else if (d.files.lookup path).isSome then .inr (.file path)
      else .inr (.free path)
  | .above => .inr .elsewhere
  | .root => if name = "dev" then .inl .devices else .inr .elsewhere
  | .devices => .inr (if name = "null" then .void else .elsewhere)

/-- Resolve the parts of a path after a directory. -/
def resolveFrom (d : Directory) (here : Passage) : List String → Except FileReason Place
  | [] => .ok .directory
  | "." :: rest => d.resolveFrom here rest
  | ".." :: rest => d.resolveFrom here.parent rest
  | name :: rest =>
      if partLimit < name.utf8ByteSize then .error .tooLong
      else match d.step here name with
        | .inl next => d.resolveFrom next rest
        | .inr place =>
            if rest.isEmpty then .ok place
            else match place with
              | .file _ | .void => .error .notDirectory
              | _ => .error .missing

/-- Resolve a path. -/
def resolve (d : Directory) (path : String) : Except FileReason Place :=
  if '\x00' ∈ path.toList then .error .invalid
  else if path.isEmpty then .error .missing
  else if pathLimit ≤ path.utf8ByteSize then .error .tooLong
  else d.resolveFrom (if path.toList.head? = some '/' then .root else .inside []) (parts path)

/-- Read a file that holds text. -/
def read (d : Directory) (path : String) : Except FileError String :=
  match d.resolve path with
  | .error reason => .error ⟨.access, path, reason⟩
  | .ok .directory => .error ⟨.read, path, .isDirectory⟩
  | .ok (.file name) =>
      if endsInSlash path then .error ⟨.access, path, .notDirectory⟩
      else match d.files.lookup name with
        | some (.text content) => .ok content
        | _ => .ok ""
  | .ok .void => if endsInSlash path then .error ⟨.access, path, .notDirectory⟩ else .ok ""
  | .ok (.free _) | .ok .elsewhere => .error ⟨.access, path, .missing⟩

/-- Put a file into the directory, in place of one of the same name. -/
def put (d : Directory) (name : String) (content : Artifact) : Directory :=
  ⟨d.files.filter (·.1 ≠ name) ++ [(name, content)]⟩

/-- The name that a file to be created has, if it can be created; none outside of the
directory. -/
def target (d : Directory) (path : String) : Except FileError (Option String) :=
  match d.resolve path with
  | .error reason => .error ⟨.access, path, reason⟩
  | .ok .directory => .error ⟨.access, path, .isDirectory⟩
  | .ok place =>
      if endsInSlash path then .error ⟨.access, path, .isDirectory⟩
      else match place with
        | .file name | .free name => .ok (some name)
        | _ => .ok none

/-- Write a file at a path, if that is possible. -/
def write (d : Directory) (path : String) (content : Artifact) : Except FileError Directory :=
  match d.target path with
  | .ok (some name) => .ok (d.put name content)
  | .ok none => .ok d
  | .error error => .error error

end Directory

end FieldGraph
