import FieldGraph.Scene.Basic
import FieldGraph.Session.Basic

/-!
# Applying scenes

A scene is applied to a session as a sequence of commands: each node is added and its parameters
are set, then the links are connected. The first refused command ends it.
-/

namespace FieldGraph.Scene

/-- Why a scene was not applied in full. -/
inductive ApplyError where
  /-- A node or one of its parameters was refused. -/
  | node (span : Config.Span) (name : String) (error : EditError)
  /-- A port does not exist. -/
  | endpoint (span : Config.Span) (endpoint : Endpoint) (reason : Reason)
  /-- A connection was refused. -/
  | connect (link : Link) (error : EditError)

namespace ApplyError

/-- The text of the error in a file. -/
def message (file : String) : ApplyError → String
  | node span name error =>
      span.text file ++ ": node " ++ Text.quote name ++ ": " ++ error.message
  | endpoint span e reason => span.text file ++ ": " ++ e.text ++ ": " ++ reason.text
  | connect link error =>
      link.span.text file ++ ": connect " ++ link.source.text ++ " to " ++ link.target.text ++
        ": " ++ error.message

/-- What the error comes down to. -/
def cause : ApplyError → Cause
  | node _ _ error | connect _ error => error.cause
  | endpoint _ _ reason => reason.cause

end ApplyError

/-- Where the application of a scene stands. -/
structure Applied where
  session : Session
  events : List Event := []
  /-- The nodes added so far, by name. -/
  ids : List (String × NodeId) := []
  error : Option ApplyError := none
  abort : Option Abort := none

namespace Applied

/-- Whether nothing has ended the application. -/
def isOpen (a : Applied) : Bool := a.error.isNone && a.abort.isNone

/-- Apply one more command. -/
def command (a : Applied) (c : Command) (refusal : EditError → ApplyError) :
    Applied × Command.Effect :=
  let result := a.session.apply c
  ({ a with
      session := result.session
      events := a.events ++ result.events
      error := result.refused.map refusal
      abort := result.abort }, result.effect)

/-- The id of a named node; an unknown name has none. -/
def idOf (a : Applied) (name : String) : NodeId := (a.ids.lookup name).getD 0

/-- Set one parameter of a node. -/
def setParam (name : String) (a : Applied) (p : Param) : Applied :=
  if a.isOpen then
    (a.command (.setParameter (a.idOf name) p.name p.value) (.node p.span name)).1
  else a

/-- Add one node and set its parameters. -/
def declare (a : Applied) (d : Declaration) : Applied :=
  if a.isOpen then
    let (added, effect) := a.command (.addNode d.kind d.position) (.node d.span d.name)
    if added.error.isNone then
      d.params.foldl (setParam d.name) { added with ids := (d.name, effect.node) :: added.ids }
    else added
  else a

/-- Connect one link. -/
def connect (a : Applied) (link : Link) : Applied :=
  if a.isOpen then
    let graph := a.session.graph
    match graph.portNamed (a.idOf link.source.node) true link.source.port with
    | .error reason => { a with error := some (.endpoint link.span link.source reason) }
    | .ok source =>
        match graph.portNamed (a.idOf link.target.node) false link.target.port with
        | .error reason => { a with error := some (.endpoint link.span link.target reason) }
        | .ok target => (a.command (.connect source target) (.connect link)).1
  else a

end Applied

/-- Apply a scene to a session. -/
def apply (scene : Scene) (session : Session) : Applied :=
  scene.links.foldl Applied.connect (scene.nodes.foldl Applied.declare { session })

end FieldGraph.Scene
