import FieldGraph.Scene.Load

/-!
# Watching a scene file

A watcher reloads a scene file into a session when its modification time changes. It looks at the
file at most twice a second.
-/

namespace FieldGraph.Console

/-- A watcher of a scene file. -/
structure Watcher where
  path : String
  /-- The modification time of the file when it was last loaded, if it was. -/
  modified : Option Int := none
  /-- When the watcher last looked, in milliseconds. -/
  checked : Option Int := none
  deriving DecidableEq, Repr

namespace Watcher

/-- The least time between two looks, in milliseconds. -/
def interval : Int := 500

/-- Whether it is too early to look again. -/
def tooEarly (w : Watcher) (now : Int) : Bool :=
  match w.checked with
  | some checked => now - checked < interval
  | none => false

/-- The record of a reload. -/
def reloadRecord (path : String) (l : Scene.Loaded) : Record :=
  match l.error with
  | some error =>
      ⟨.error, "reload failed", [("scene", .text path), ("err", .text (error.message path))]⟩
  | none =>
      ⟨.info, "reloaded scene",
        [("scene", .text path), ("generation", .integer l.session.generation)]⟩

/-- Look at the file at some time, given its modification time if it has one and what reading it
gives. -/
def poll (w : Watcher) (now : Int) (modified : Option Int) (source : Except FileError String)
    (s : Session) : Watcher × Session × List Event :=
  if w.tooEarly now then (w, s, [])
  else
    let w := { w with checked := some now }
    if modified.isNone || modified = w.modified then (w, s, [])
    else
      let loaded := Scene.load source s
      ({ w with modified }, loaded.session,
        loaded.events ++ [.log (reloadRecord w.path loaded)])

end Watcher

end FieldGraph.Console
