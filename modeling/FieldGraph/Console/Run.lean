import FieldGraph.Console.Host
import FieldGraph.Console.Options
import FieldGraph.Console.Picture
import FieldGraph.Kind.Standard
import FieldGraph.Scene.Load
import FieldGraph.Shader.Compiled

/-!
# Running the command

The scene is loaded and compiled; then the program, a picture and a window are made as asked for.
The first failure ends the run.
-/

namespace FieldGraph.Console

/-- Why a run ended early. -/
inductive Failure where
  | usage (error : UsageError)
  | load (path : String) (error : Scene.LoadError)
  | file (error : FileError)
  | program (error : Shader.WriteError)
  | compile (fault : Shader.CompileFault)
  | picture (error : PictureError)
  | window (fault : Device.Fault)
  /-- The work group size was refused. -/
  | workGroup (fault : Compiler.WorkGroupFault)

namespace Failure

/-- The text of a failure. -/
def message : Failure → String
  | usage error => error.message
  | load path error => error.message path
  | file error => error.message
  | program error => error.message
  | compile fault => fault.message
  | picture error => error.message
  | window fault => fault.message
  | workGroup fault => fault.message

/-- The exit code that belongs to a failure, if one does. -/
def code? : Failure → Option Nat
  | usage _ => some 2
  | load _ _ => some 1
  | _ => none

/-- The exit code of the process. -/
def exitCode (f : Failure) : Nat := f.code?.getD 1

end Failure

namespace Options

/-- The compiler that options ask for. -/
def compiler (o : Options) : Except Compiler.WorkGroupFault Compiler :=
  Compiler.setWorkGroup
    { dialect := o.dialect, mode := if o.uniforms then .uniform else .inline } o.invocations 1 1

/-- What is written for a shader. -/
def artifact (o : Options) (c : Compiler) (s : Shader) : Except Failure Artifact :=
  match o.mode with
  | .sdf => .ok (.text s.source)
  | .nodes => .ok (.text s.listing)
  | .frag =>
      match (s.writeVisualizer {}).error with
      | some error => .error (.program error)
      | none => .ok (.text s.visualizerText)
  | .compute => .ok (.text (s.computeText c.workGroup))
  | .spirv =>
      match Shader.compileCompute (some s) c.workGroup with
      | .ok interface => .ok (.module interface)
      | .error fault => .error (.compile fault)

end Options

variable {m : Type → Type} [Monad m]

/-- Pass on the records among some events. -/
def logEvents (host : Host m) : List Event → m Unit
  | [] => return
  | .log record :: rest => do
      host.log record
      logEvents host rest
  | _ :: rest => logEvents host rest

/-- Write something after making the file for it. -/
def deliver (host : Host m) (path : Option String) (artifact : Except Failure Artifact) :
    ExceptT Failure m Unit := do
  match path with
  | some path =>
      match ← host.create path with
      | .error error => throw (.file error)
      | .ok _ => pure ()
  | none => pure ()
  match artifact with
  | .ok artifact => host.emit path artifact
  | .error failure => throw failure

/-- Write the program of a session. -/
def writeProgram (host : Host m) (o : Options) (s : Session) : ExceptT Failure m Unit :=
  match s.shader with
  | some shader => deliver host o.output (o.artifact s.compiler shader)
  | none => deliver host o.output (.error (.compile .noShader))

/-- Write the picture of a session's graph to a file. -/
def writePicture (host : Host m) (path : String) (gpu : Bool) (size z : Float32) (graph : Graph) :
    ExceptT Failure m Unit :=
  match pictureField graph gpu size with
  | .error error => throw (.picture error)
  | .ok field =>
      deliver host (some path) (match paintSlice field z with
        | .ok rows => .ok (.picture rows)
        | .error error => .error (.picture error))

/-- The record of a scene that was loaded. -/
def compiledRecord (path : String) (s : Session) : Record :=
  ⟨.info, "compiled scene",
    [("scene", .text path), ("generation", .integer s.generation),
      ("nodes", .integer ((s.shader.map (·.nodes.length)).getD 0))]⟩

/-- The record of a picture that was written. -/
def sliceRecord (path : String) (z : Float32) : Record :=
  let height := (Binary.ofSingle z).toFormat .double
  ⟨.info, "wrote slice", [("file", .text path), ("z", .number height)]⟩

/-- Run with options. -/
def runOptions (host : Host m) (o : Options) : ExceptT Failure m Unit := do
  match o.compiler with
  | .error fault => throw (.workGroup fault)
  | .ok compiler =>
      let source ← host.read o.scene
      let loaded := Scene.load source (.new Catalog.standard compiler)
      (logEvents host loaded.events : m Unit)
      match loaded.error with
      | some error => throw (.load o.scene error)
      | none =>
          let session := loaded.session
          host.log (compiledRecord o.scene session)
          if !o.ui || o.output.isSome then writeProgram host o session
          match o.png with
          | some path =>
              writePicture host path o.gpu o.size o.z session.graph
              host.log (sliceRecord path o.z)
          | none => pure ()
          if o.ui then throw (.window (Device.windowFault true))

/-- Print what reading the command line prints, then run what it asks for. -/
def run (host : Host m) (arguments : List String) : ExceptT Failure m Unit := do
  let request := Request.ofArguments arguments
  if !request.output.isEmpty then host.emit none (.text request.output)
  match request with
  | .help => pure ()
  | .refused error => throw (.usage error)
  | .run options => runOptions host options

end FieldGraph.Console
