import FieldGraph.Shader.Basic

/-!
# Complete programs

A shader's source is completed to a fragment program that marches rays, or to a compute program
that evaluates a buffer of points. Programs are written in chunks to a sink that may run full:
what fits of a chunk is kept, and the first chunk that does not fit ends the writing.
-/

namespace FieldGraph.Shader

/-- A place for bytes with or without a limit. -/
structure Sink where
  /-- How many more bytes fit, if there is a limit. -/
  room : Option Nat := none
  /-- What was written. -/
  bytes : List UInt8 := []
  deriving DecidableEq, Repr

/-- Why a program was not written completely. -/
inductive WriteError where
  /-- The visualizer exists in one language only. -/
  | visualizerDialect (got : Dialect)
  /-- The sink ran full. -/
  | full
  deriving DecidableEq, Repr

/-- The text of a write error. -/
def WriteError.message : WriteError → String
  | visualizerDialect got =>
      "visualizer requires " ++ Dialect.glsl.name ++ " shader, got " ++ got.name
  | full => "writer full"

/-- The outcome of writing: how many bytes went out, what stopped it, and the sink. -/
structure Written where
  count : Nat
  error : Option WriteError
  sink : Sink
  deriving DecidableEq, Repr

/-- Write one chunk as far as it fits. -/
def Sink.write (s : Sink) (chunk : List UInt8) : Written :=
  match s.room with
  | none => ⟨chunk.length, none, { s with bytes := s.bytes ++ chunk }⟩
  | some room =>
      let fitting := chunk.take room
      let sink : Sink := ⟨some (room - fitting.length), s.bytes ++ fitting⟩
      ⟨fitting.length, if fitting.length < chunk.length then some .full else none, sink⟩

/-- Write chunks until one does not fit. -/
def Sink.writeAll (s : Sink) : List (List UInt8) → Written
  | [] => ⟨0, none, s⟩
  | chunk :: rest =>
      match s.write chunk with
      | ⟨n, some error, sink⟩ => ⟨n, some error, sink⟩
      | ⟨n, none, sink⟩ =>
          let later := sink.writeAll rest
          { later with count := n + later.count }

/-- The language version line. -/
def versionLine : String := "#version 430\n"

/-- The ray marcher that follows the source of a fragment program. -/
def visualizerLines : List String :=
  ["",
   "in vec2 vTexCoord;",
   "out vec4 fragColor;",
   "",
   "uniform vec2 uResolution;",
   "uniform float uYaw;",
   "uniform float uPitch;",
   "uniform float uCamDist; // Distance from the target. Controlled by mouse scroll (zoom).",
   "uniform float uCharDist; // Characteristic distance beyond which rays are discarded.",
   "uniform int uAA; // Anti aliasing.",
   "uniform int uShading; // 0: lit, 1: normals, 2: march steps.",
   "",
   "const int MAX_STEPS = 256;",
   "",
   "// Function to calculate the normal at a point using central differences",
   "vec3 calcNormal(vec3 pos) \x7b",
   "    const float eps = 0.0001;",
   "    vec2 e = vec2(1.0, -1.0) * 0.5773;",
   "    return normalize(",
   "        e.xyy * sdf(pos + e.xyy * eps) +",
   "        e.yyx * sdf(pos + e.yyx * eps) +",
   "        e.yxy * sdf(pos + e.yxy * eps) +",
   "        e.xxx * sdf(pos + e.xxx * eps)",
   "    );",
   "\x7d",
   "",
   "void main() \x7b",
   "    vec2 fragCoord = vTexCoord * uResolution;",
   "    const float PI = 3.14159265359;",
   "    vec3 ta = vec3(0.0, 0.0, 0.0); // Camera target at the origin",
   "    float yaw = uYaw;",
   "    float pitch = clamp(uPitch, -PI / 2.0 + 0.01, PI / 2.0 - 0.01);",
   "",
   "    vec3 dir;",
   "    dir.x = cos(pitch) * sin(yaw);",
   "    dir.y = sin(pitch);",
   "    dir.z = cos(pitch) * cos(yaw);",
   "    vec3 ro = ta - dir * uCamDist; // Camera position",
   "",
   "    // Camera matrix",
   "    vec3 ww = normalize(ta - ro);",
   "    vec3 uu = normalize(cross(ww, vec3(0.0, 1.0, 0.0)));",
   "    vec3 vv = cross(uu, ww);",
   "",
   "    int aa = max(uAA, 1);",
   "    vec3 tot = vec3(0.0); // Total color accumulation.",
   "    for (int m = 0; m < aa; m++)",
   "    for (int n = 0; n < aa; n++) \x7b",
   "        vec2 o = vec2(float(m), float(n)) / float(aa) - 0.5;",
   "        vec2 p = (2.0 * (fragCoord + o) - uResolution) / uResolution.y;",
   "        vec3 rd = normalize(p.x * uu + p.y * vv + 1.5 * ww);",
   "",
   "        const float tol = 0.0001;",
   "        float t = 0.0;",
   "        bool hit = false;",
   "        int steps = 0;",
   "        for (; steps < MAX_STEPS; steps++) \x7b",
   "            float h = sdf(ro + t * rd);",
   "            if (h < tol || t > 1.3 * uCharDist) \x7b",
   "                hit = h < tol;",
   "                break;",
   "            \x7d",
   "            t += h;",
   "        \x7d",
   "",
   "        vec3 col = vec3(0.0);",
   "        if (uShading == 2) \x7b",
   "            col = vec3(float(steps) / float(MAX_STEPS));",
   "        \x7d else if (hit) \x7b",
   "            vec3 nor = calcNormal(ro + t * rd);",
   "            if (uShading == 1) \x7b",
   "                col = 0.5 + 0.5 * nor;",
   "            \x7d else \x7b",
   "                float dif = clamp(dot(nor, vec3(0.57703)), 0.0, 1.0);",
   "                float amb = 0.5 + 0.5 * dot(nor, vec3(0.0, 1.0, 0.0));",
   "                col = sqrt(vec3(0.2, 0.3, 0.4) * amb + vec3(0.8, 0.7, 0.5) * dif);",
   "            \x7d",
   "        \x7d",
   "        tot += col;",
   "    \x7d",
   "    tot /= float(aa * aa);",
   "    fragColor = vec4(tot, 1.0);",
   "\x7d"]

/-- Lines of a text, each with its end. -/
def joinLines (lines : List String) : String := String.join (lines.map (· ++ "\n"))

/-- The chunks of the fragment program. -/
def visualizerChunks (s : Shader) : List (List UInt8) :=
  [utf8 versionLine, utf8 s.source, utf8 (joinLines visualizerLines)]

/-- Write the fragment program, which exists for one language only. -/
def writeVisualizer (s : Shader) (sink : Sink) : Written :=
  if s.dialect ≠ .glsl then ⟨0, some (.visualizerDialect s.dialect), sink⟩
  else sink.writeAll s.visualizerChunks

/-- What follows the source of a compute program in the WebGPU language. -/
def computeTailWgsl (workGroup : Nat) : String :=
  joinLines
    ["@group(0) @binding(0) var<storage, read> positions: array<f32>;",
     "@group(0) @binding(1) var<storage, read_write> distances: array<f32>;",
     "",
     "@compute @workgroup_size(" ++ toString workGroup ++ ")",
     "fn main(@builtin(global_invocation_id) gid: vec3<u32>) \x7b",
     "\tlet idx = gid.x;",
     "\tif (idx >= arrayLength(&distances)) \x7b",
     "\t\treturn;",
     "\t\x7d",
     "\tlet p = vec3<f32>(positions[3u*idx], positions[3u*idx+1u], positions[3u*idx+2u]);",
     "\tdistances[idx] = " ++ entryPoint ++ "(p);",
     "\x7d"]

/-- What follows the source of a compute program in the OpenGL language. -/
def computeTailGlsl (workGroup : Nat) : String :=
  joinLines
    ["layout(local_size_x = " ++ toString workGroup ++
       ", local_size_y = 1, local_size_z = 1) in;",
     "",
     "// Input: 3D positions at which to evaluate SDF.",
     "layout(std430, binding = 0) buffer PositionsBuffer \x7b",
     "\tfloat vbo_positions[];",
     "\x7d;",
     "",
     "// Output: Result of SDF evaluation are the distances. Maps to position buffer.",
     "layout(std430, binding = 1) buffer DistancesBuffer \x7b",
     "\tfloat vbo_distances[];",
     "\x7d;",
     "",
     "void main() \x7b",
     "\tint idx = int( gl_GlobalInvocationID.x );",
     "\tif (idx >= vbo_distances.length()) \x7b",
     "\t\treturn;",
     "\t\x7d",
     "\tvec3 p = vec3(vbo_positions[3*idx], vbo_positions[3*idx+1], vbo_positions[3*idx+2]);",
     "\tvbo_distances[idx] = " ++ entryPoint ++ "(p);",
     "\x7d"]

/-- The chunks of the compute program for a work group size. -/
def computeChunks (s : Shader) (workGroup : Nat) : List (List UInt8) :=
  if s.dialect = .wgsl then [utf8 s.source, utf8 (computeTailWgsl workGroup)]
  else [utf8 ("#shader compute\n" ++ versionLine), utf8 s.source,
    utf8 (computeTailGlsl workGroup)]

/-- Write the compute program. -/
def writeCompute (s : Shader) (workGroup : Nat) (sink : Sink) : Written :=
  sink.writeAll (s.computeChunks workGroup)

/-- The fragment program as text. -/
def visualizerText (s : Shader) : String :=
  versionLine ++ s.source ++ joinLines visualizerLines

/-- The compute program as text. -/
def computeText (s : Shader) (workGroup : Nat) : String :=
  if s.dialect = .wgsl then s.source ++ computeTailWgsl workGroup
  else "#shader compute\n" ++ versionLine ++ s.source ++ computeTailGlsl workGroup

end FieldGraph.Shader
