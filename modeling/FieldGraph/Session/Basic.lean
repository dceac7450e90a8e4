import FieldGraph.Graph.Order
import FieldGraph.Session.Command
import FieldGraph.Session.Record
import FieldGraph.Shader.Basic

/-!
# Editing sessions

A session owns a graph and keeps a shader for it: every accepted command and every explicit
request compiles anew. A failed compilation keeps the last good shader and remembers why it
failed; a refused command changes nothing. What happened is returned as a list of events, in
which observers find every compilation once.
-/

namespace FieldGraph

/-- How the shader relates to the graph. -/
inductive SessionState where
  /-- The graph has changed since. -/
  | dirty
  | compiling
  | valid
  | invalid
  deriving DecidableEq, Repr

namespace SessionState

/-- The state with a given number. -/
def ofCode? : Nat → Option SessionState
  | 0 => some dirty
  | 1 => some compiling
  | 2 => some valid
  | 3 => some invalid
  | _ => none

/-- The word for a state. -/
def name : SessionState → String
  | dirty => "dirty"
  | compiling => "compiling"
  | valid => "valid"
  | invalid => "invalid"

/-- The word for a state given by number. -/
def nameOfCode (code : Nat) : String :=
  match ofCode? code with
  | some state => state.name
  | none => "State(" ++ toString code ++ ")"

end SessionState

/-- Why a compilation failed. -/
inductive CompileError where
  /-- Validation found these errors. -/
  | validation (findings : List Diagnostic)
  | order (error : OrderError)
  /-- The graph is in a state that no edit produces. -/
  | invariant (error : OrderError)
  | generate (error : GenerateError)
  deriving DecidableEq, Repr

/-- The text of an invariant violation. -/
def invariantMessage (what : String) : String := "graph invariant violated: " ++ what

/-- The text of a compile error. -/
def CompileError.message : CompileError → String
  | validation findings => validationMessage findings
  | order error => error.message
  | invariant error => invariantMessage error.message
  | generate error => "generate: " ++ error.message

/-- Something an observer may want to know. -/
inductive Event where
  | log (record : Record)
  /-- A compilation succeeded. -/
  | compiled (shader : Shader)
  /-- A compilation failed. -/
  | failed (error : CompileError)

/-- A fault that ends the program unless it is caught. -/
inductive Abort where
  | invariant (error : OrderError)
  | breakdown (cause : Breakdown)
  deriving DecidableEq, Repr

/-- The text of a fault that ends the program. -/
def Abort.message : Abort → String
  | invariant error => invariantMessage error.message
  | breakdown cause => cause.message

/-- A graph with its shader. -/
structure Session where
  graph : Graph
  compiler : Compiler := {}
  state : SessionState := .dirty
  /-- Why the last compilation failed, if it did. -/
  error : Option CompileError := none
  /-- The last good shader. -/
  shader : Option Shader := none
  /-- Treat a violated invariant as a failed compilation. -/
  tolerant : Bool := false

namespace Session

/-- A session with an empty graph. -/
def new (catalog : Catalog) (compiler : Compiler := {}) (tolerant : Bool := false) : Session :=
  { graph := .empty catalog, compiler, tolerant }

/-- Number of the last good shader, zero if there is none. -/
def generation (s : Session) : Nat := (s.shader.map (·.generation)).getD 0

/-- What a compilation leaves behind. -/
structure Compilation where
  session : Session
  events : List Event
  warnings : List Diagnostic := []
  error : Option CompileError := none
  abort : Option Abort := none

/-- A record with one text value. -/
def textRecord (level : Level) (message key value : String) : Event :=
  .log ⟨level, message, [(key, .text value)]⟩

/-- The record of a warning. -/
def warningEvent (d : Diagnostic) : Event :=
  .log ⟨.warn, "graph warning", [("node", .integer d.node), ("msg", .text d.text)]⟩

/-- End a compilation with an error. The first failure after success is worth more than a
repeated one. -/
def fail (s : Session) (error : CompileError) : Session × List Event :=
  let record :=
    if s.error.isNone then textRecord .info "shader invalid" "err" error.message
    else textRecord .debug "compile failed" "err" error.message
  ({ s with state := .invalid, error := some error }, [record, .failed error])

/-- End a compilation with a shader. -/
def succeed (s : Session) (shader : Shader) (compiler : Compiler) : Session × List Event :=
  let number : RecordValue := .integer shader.generation
  let done : Event := .log ⟨.debug, "compiled",
    [("generation", number), ("nodes", .integer shader.nodes.length)]⟩
  let recovered : List Event :=
    if s.error.isSome then [.log ⟨.info, "shader valid", [("generation", number)]⟩] else []
  ({ s with compiler, shader := some shader, state := .valid, error := none },
    done :: recovered ++ [.compiled shader])

/-- Compile the graph. -/
def compile (s : Session) : Compilation :=
  let s := { s with state := .compiling }
  match s.graph.validate with
  | .error cause => { session := s, events := [], abort := some (.breakdown cause) }
  | .ok report =>
      let warnings := report.warnings
      let told := warnings.map warningEvent
      let failWith (s : Session) (before : List Event) (error : CompileError) : Compilation :=
        let (session, events) := s.fail error
        { session, events := before ++ events, warnings, error := some error }
      match report.failure? with
      | some findings => failWith s told (.validation findings)
      | none =>
          match s.graph.order with
          | .error (.breakdown cause) =>
              { session := s, events := told, warnings, abort := some (.breakdown cause) }
          | .error (.cycle path) =>
              let error : CompileError := .invariant (.cycle path)
              let told := told ++ [textRecord .error "invariant violation" "err" error.message]
              if s.tolerant then failWith s told error
              else { session := s, events := told, warnings,
                     abort := some (.invariant (.cycle path)) }
          | .error error => failWith s told (.order error)
          | .ok order =>
              match s.compiler.generate s.graph order with
              | (.error error, compiler) =>
                  failWith { s with compiler } told (.generate error)
              | (.ok shader, compiler) =>
                  let (session, events) := s.succeed shader compiler
                  { session, events := told ++ events, warnings }

/-- Compile without an edit. -/
def recompile (s : Session) : Compilation := compile { s with state := .dirty }

/-- The outcome of a command. -/
structure Applied where
  session : Session
  events : List Event
  /-- What an accepted command did. -/
  effect : Command.Effect := {}
  /-- Why the command was refused; then nothing changed. -/
  refused : Option EditError := none
  warnings : List Diagnostic := []
  /-- Why the session is invalid after the command. -/
  compileError : Option CompileError := none
  abort : Option Abort := none

/-- Apply a command and compile. -/
def apply (s : Session) (command : Command) : Applied :=
  match command.apply s.graph with
  | .error error =>
      let record : Event := .log ⟨.debug, "command rejected",
        [("cmd", .text command.text), ("err", .text error.message)]⟩
      { session := s, events := [record], refused := some error, compileError := s.error }
  | .ok (effect, graph) =>
      let record := textRecord .debug "command applied" "cmd" command.text
      let compilation := recompile { s with graph }
      { session := compilation.session
        events := record :: compilation.events
        effect
        warnings := compilation.warnings
        compileError := compilation.error
        abort := compilation.abort }

end Session

end FieldGraph
