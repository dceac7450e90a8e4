import FieldGraph.Console.Log
import FieldGraph.Console.Run
import FieldGraph.Text.Timestamp
import Std.Time.DateTime.Timestamp

/-!
# The command

The host that runs on the real system, and the entry point.
-/

namespace FieldGraph.Console

/-- The reason behind an error of the system. -/
def reasonOf : IO.Error → FileReason
  | .noFileOrDirectory .. => .missing
  | .permissionDenied .. => .denied
  | .inappropriateType .. => .isDirectory
  | error => .other (toString error)

/-- The time now, in words. -/
def timeNow : IO String := do
  let now ← Std.Time.Timestamp.now
  return Text.timestamp now.toMillisecondsSinceUnixEpoch.toInt.toNat

/-- The log that a command line asks for. -/
def logOf (arguments : List String) : Log :=
  match Request.ofArguments arguments with
  | .run options => ⟨options.logLevel, options.logFormat⟩
  | _ => ⟨.warn, .text⟩

/-- The real system, with log records on the error output. -/
def systemHost (log : Log) : Host IO where
  read path := do
    try return .ok (← IO.FS.readFile path)
    catch error =>
      let reason := reasonOf error
      return .error ⟨if reason = .isDirectory then .read else .access, path, reason⟩
  create path := do
    try return .ok (← IO.FS.writeFile path "")
    catch error => return .error ⟨.access, path, reasonOf error⟩
  emit path artifact :=
    match path with
    | some path => IO.FS.writeBinFile path artifact.bytes
    | none => do (← IO.getStdout).write artifact.bytes
  log record := do IO.eprint (log.write record (← timeNow))

end FieldGraph.Console

open FieldGraph.Console in
/-- Run the command; a failure is told on the error output. -/
def main (arguments : List String) : IO UInt32 := do
  match ← (run (systemHost (logOf arguments)) arguments).run with
  | .ok _ => return 0
  | .error failure =>
      IO.eprintln failure.message
      return UInt32.ofNat failure.exitCode
