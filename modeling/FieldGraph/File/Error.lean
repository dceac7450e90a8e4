/-!
# Why a file could not be used
-/

namespace FieldGraph

/-- Why the system refused something with a file. -/
inductive FileReason where
  | missing
  | isDirectory
  | notDirectory
  | denied
  | tooLong
  /-- The path is none: it holds a NUL. -/
  | invalid
  /-- Something else, in the system's words. -/
  | other (text : String)
  deriving DecidableEq, Repr

/-- The words for a reason. -/
def FileReason.text : FileReason → String
  | missing => "no such file or directory"
  | isDirectory => "is a directory"
  | notDirectory => "not a directory"
  | denied => "permission denied"
  | tooLong => "file name too long"
  | invalid => "invalid argument"
  | other text => text

/-- What was done with a file when it failed. -/
inductive FileAction where
  | access
  | read
  | stat
  | remove
  deriving DecidableEq, Repr

/-- The word for an action. -/
def FileAction.word : FileAction → String
  | access => "open"
  | read => "read"
  | stat => "stat"
  | remove => "remove"

/-- A failure to use a file. -/
structure FileError where
  action : FileAction
  path : String
  reason : FileReason
  deriving DecidableEq, Repr

/-- The text of a file error. -/
def FileError.message (e : FileError) : String :=
  e.action.word ++ " " ++ e.path ++ ": " ++ e.reason.text

end FieldGraph
