import FieldGraph.Console.Flag
import FieldGraph.Session.Record
import FieldGraph.Shader.Dialect

/-!
# Options of the command

The flags of the command, what they mean together, and which combinations are refused. Words are
compared without regard to case. The first refusal in a fixed order is the one reported.
-/

namespace FieldGraph.Console

/-- What is written for a scene. -/
inductive Mode where
  /-- The declarations of the distance function. -/
  | sdf
  /-- A fragment program that shows the scene. -/
  | frag
  /-- A compute program that evaluates points. -/
  | compute
  /-- The compute program, compiled. -/
  | spirv
  /-- A listing of the nodes. -/
  | nodes
  deriving DecidableEq, Repr

/-- The word for a mode. -/
def Mode.word : Mode → String
  | sdf => "sdf"
  | frag => "frag"
  | compute => "compute"
  | spirv => "spirv"
  | nodes => "nodes"

/-- The mode of a word. -/
def Mode.ofWord? (word : String) : Option Mode :=
  [sdf, frag, compute, spirv, nodes].find? (·.word == word)

/-- How log records are written. -/
inductive LogFormat where
  | text
  | json
  deriving DecidableEq, Repr

/-- The word for a log format. -/
def LogFormat.word : LogFormat → String
  | text => "text"
  | json => "json"

/-- The log format of a word. -/
def LogFormat.ofWord? (word : String) : Option LogFormat :=
  [text, json].find? (·.word == word)

/-- The word for the least level that is written. -/
def levelWord : Level → String
  | .debug => "debug"
  | .info => "info"
  | .warn => "warn"
  | .error => "error"

/-- The level of a word. -/
def levelOfWord? (word : String) : Option Level :=
  [Level.debug, .info, .warn, .error].find? (levelWord · == word)

/-- A validated command line. -/
structure Options where
  /-- The scene file. -/
  scene : String
  /-- The file to write to, or nothing for the standard output. -/
  output : Option String := none
  dialect : Dialect := .glsl
  mode : Mode := .sdf
  /-- Read parameters from a uniform array. -/
  uniforms : Bool := false
  /-- The file for a picture of a slice. -/
  png : Option String := none
  /-- Height of the slice. -/
  z : Float32 := 0
  /-- Side of the cube that frames the scene. -/
  size : Float32 := 4
  /-- Open a window. -/
  ui : Bool := false
  /-- Evaluate the slice on a device. -/
  gpu : Bool := false
  /-- Work group size of compute programs. -/
  invocations : Nat := 32
  /-- Reload the scene when its file changes. -/
  watch : Bool := false
  logLevel : Level := .warn
  logFormat : LogFormat := .text

/-- Why a command line was refused. -/
inductive UsageError where
  | flag (error : FlagError)
  /-- More than one scene file. -/
  | sceneCount
  | target
  | mode
  | fragTarget
  | spirvTarget
  | uiTarget
  | gpuNeeds
  | invocations
  | size
  | logFormat
  | logLevel
  deriving DecidableEq, Repr

/-- The text of a usage error. -/
def UsageError.message : UsageError → String
  | flag error => error.message
  | sceneCount => "expected a single scene file argument"
  | target => "invalid target: must be 'glsl' or 'wgsl'"
  | mode => "invalid mode: must be 'sdf', 'frag', 'compute', 'spirv' or 'nodes'"
  | fragTarget => "frag mode requires glsl target"
  | spirvTarget => "spirv mode requires wgsl target"
  | uiTarget => "ui requires glsl target"
  | gpuNeeds => "gpu requires -png and glsl target"
  | invocations => "invocations must be positive"
  | size => "size must be positive"
  | logFormat => "invalid log-format: must be 'text' or 'json'"
  | logLevel => "invalid log-level: must be 'debug', 'info', 'warn', or 'error'"

namespace Options

/-- The flags of the command, in the order of the help. -/
def flags : List Flag :=
  [⟨"gpu", .switch,
      "Evaluate the -png slice with the compute program on the GPU. Requires glsl target.", none⟩,
    ⟨"invocations", .integer, "Compute work group size used by -mode compute and -gpu.", "32"⟩,
    ⟨"log-format", .text, "Log output format. Options: 'text' or 'json'.", "\"text\""⟩,
    ⟨"log-level", .text,
      "Set the logging level. Options: 'debug', 'info', 'warn', 'error'.", "\"warn\""⟩,
    ⟨"mode", .text,
      "Program written. Options: 'sdf' (declarations only), 'frag' (visualizer fragment " ++
        "program), 'compute', 'spirv' (wgsl compute compiled to SPIR-V) or 'nodes' (per-node " ++
        "expression listing).", "\"sdf\""⟩,
    ⟨"o", .text, "Output file for the shader. Defaults to stdout.", none⟩,
    ⟨"png", .text,
      "Write a PNG of the XY slice of the scene evaluated on the CPU to this file.", none⟩,
    ⟨"size", .float, "Side length of the cube centered at the origin framing the scene.", "4"⟩,
    ⟨"target", .text, "Shading language. Options: 'glsl' or 'wgsl'.", "\"glsl\""⟩,
    ⟨"ui", .switch,
      "Open an interactive window raymarching the scene. Requires glsl target.", none⟩,
    ⟨"uniforms", .switch, "Read node parameters from a uniform array instead of literals.", none⟩,
    ⟨"watch", .switch, "Reload the scene file on change while the window is open.", none⟩,
    ⟨"z", .float, "Height of the slice written with -png.", none⟩]

/-- The help of the command. -/
def usage : String :=
  "\nsdfgraph - compiles SDF node graph scenes to raymarching shaders.\n\nUsage:\n" ++
    "  sdfgraph [options] SCENE.hcl\n\nOptions:\n" ++ String.join (flags.map (·.usage))

/-- The lower case of a word. Beyond ASCII only two characters have an ASCII lower case, so no
others matter for the words of the command. -/
def lowerCase (word : String) : String :=
  word.map fun c =>
    if c = '\u0130' then 'i' else if c = '\u212a' then 'k' else c.toLower

/-- The values given for flags. A later value takes the place of an earlier one. -/
abbrev Given := List (String × FlagValue)

namespace Given

/-- The last value of a flag. -/
def last? (g : Given) (name : String) : Option FlagValue := g.reverse.lookup name

/-- Whether a switch is on. -/
def isOn (g : Given) (name : String) : Bool := g.last? name == some (.switch true)

/-- A text. -/
def textOf (g : Given) (name default : String) : String :=
  match g.last? name with
  | some (.text s) => s
  | _ => default

/-- A text that may be empty, which means nothing. -/
def optional (g : Given) (name : String) : Option String :=
  let s := g.textOf name ""
  if s.isEmpty then none else some s

/-- A word in lower case. -/
def wordOf (g : Given) (name default : String) : String := lowerCase (g.textOf name default)

/-- An integer. -/
def integerOf (g : Given) (name : String) (default : Int) : Int :=
  match g.last? name with
  | some (.integer n) => n
  | _ => default

/-- A single precision float. -/
def floatOf (g : Given) (name : String) (default : Float32) : Float32 :=
  match g.last? name with
  | some (.float x) => x.toSingle
  | _ => default

end Given

/-- The dialect of a word. -/
def dialectOfWord? (word : String) : Option Dialect :=
  if word = "glsl" then some .glsl else if word = "wgsl" then some .wgsl else none

/-- The options that flags and a scene file amount to. -/
def ofFlags (given : Given) (scene : String) : Except UsageError Options := do
  let dialect ← (dialectOfWord? (given.wordOf "target" "glsl")).elim (throw .target) pure
  let mode ← (Mode.ofWord? (given.wordOf "mode" "sdf")).elim (throw .mode) pure
  if mode = .frag ∧ dialect ≠ .glsl then throw .fragTarget
  if mode = .spirv ∧ dialect ≠ .wgsl then throw .spirvTarget
  let ui := given.isOn "ui"
  if ui ∧ dialect ≠ .glsl then throw .uiTarget
  let gpu := given.isOn "gpu"
  let png := given.optional "png"
  if gpu ∧ (png.isNone ∨ dialect ≠ .glsl) then throw .gpuNeeds
  let invocations := given.integerOf "invocations" 32
  if invocations < 1 then throw .invocations
  let size := given.floatOf "size" 4
  if size ≤ 0 then throw .size
  let logFormat ←
    (LogFormat.ofWord? (given.wordOf "log-format" "text")).elim (throw .logFormat) pure
  let logLevel ← (levelOfWord? (given.wordOf "log-level" "warn")).elim (throw .logLevel) pure
  return {
    scene
    output := given.optional "o"
    dialect
    mode
    uniforms := given.isOn "uniforms"
    png
    z := given.floatOf "z" 0
    size
    ui
    gpu
    invocations := invocations.toNat
    watch := given.isOn "watch"
    logLevel
    logFormat }

end Options

/-- What a command line asks for. -/
inductive Request where
  /-- To print the help. -/
  | help
  | run (options : Options)
  | refused (error : UsageError)

namespace Request

/-- Read a command line. Without a scene file it asks for help. -/
def ofArguments (arguments : List String) : Request :=
  match readFlags Options.flags none [] arguments with
  | .help => .help
  | .failed error => .refused (.flag error)
  | .read _ [] => .help
  | .read given [scene] =>
      match Options.ofFlags given scene with
      | .ok options => .run options
      | .error error => .refused error
  | .read _ (_ :: _ :: _) => .refused .sceneCount

/-- What reading a command line prints: the help if it is asked for or a flag is wrong. -/
def output : Request → String
  | help => Options.usage
  | refused (.flag error) => error.message ++ "\n" ++ Options.usage
  | _ => ""

end Request

end FieldGraph.Console
