import FieldGraph.File.Error
import FieldGraph.Scene.Apply
import FieldGraph.Scene.Decode

/-!
# Loading scenes

Loading replaces the graph of a session by that of a scene file: the old nodes are removed one by
one, then the scene is applied. Afterwards the session has to be valid. A file that cannot be
read as a scene leaves the session alone.
-/

namespace FieldGraph.Scene

/-- Why a scene file was not loaded. -/
inductive LoadError where
  | file (error : FileError)
  /-- The text is not that of a scene. -/
  | refused (findings : List Finding)
  /-- An old node could not be removed. -/
  | clear (error : EditError)
  | apply (error : ApplyError)
  /-- The scene does not compile; the reason is missing if nothing was compiled. -/
  | invalid (reason : Option CompileError)
  /-- The session broke down. -/
  | aborted (cause : Abort)

/-- The text of a load error for a file. -/
def LoadError.message (path : String) : LoadError → String
  | file error => error.message
  | refused findings => findingsMessage path findings
  | clear error => error.message
  | apply error => error.message path
  | invalid (some reason) => path ++ ": " ++ reason.message
  | invalid none => path ++ ": %!w(<nil>)"
  | aborted cause => cause.message

/-- A session during a load. -/
structure Loaded where
  session : Session
  events : List Event := []
  error : Option LoadError := none

namespace Loaded

/-- Remove an old node unless something went wrong before. -/
def remove (l : Loaded) (id : NodeId) : Loaded :=
  if l.error.isSome then l
  else
    let result := l.session.apply (.removeNode id)
    { session := result.session
      events := l.events ++ result.events
      error := match result.refused, result.abort with
        | some error, _ => some (.clear error)
        | none, some cause => some (.aborted cause)
        | none, none => none }

/-- Apply a scene unless something went wrong before. -/
def place (l : Loaded) (scene : Scene) : Loaded :=
  if l.error.isSome then l
  else
    let result := scene.apply l.session
    { session := result.session
      events := l.events ++ result.events
      error := match result.error, result.abort with
        | some error, _ => some (.apply error)
        | none, some cause => some (.aborted cause)
        | none, none =>
            if result.session.state = .valid then none
            else some (.invalid result.session.error) }

end Loaded

/-- Load a file that was read, or failed to be read, into a session. -/
def load (source : Except FileError String) (s : Session) : Loaded :=
  match source with
  | .error error => { session := s, error := some (.file error) }
  | .ok text =>
      match ofText text with
      | .error findings => { session := s, error := some (.refused findings) }
      | .ok scene => (s.graph.nodeIds.foldl Loaded.remove { session := s }).place scene

end FieldGraph.Scene
