import FieldGraph.Shader.Function

/-!
# The function library

The helper functions called by the code of the standard kinds, in both shading languages.
-/

namespace FieldGraph.Shader

/-- A function definition from its head and the statements of its body. -/
def definition (head : String) (statements : List String) : String :=
  head ++ " \x7b\n" ++ String.join (statements.map fun s => "\t" ++ s ++ "\n") ++ "\x7d"

namespace Library

/-- Distance to a box with rounded edges. -/
def box : Function where
  name := "sdBox"
  glsl := definition "float sdBox(vec3 p, vec3 b, float r)"
    ["vec3 q = abs(p)-b+r;",
     "return length(max(q,vec3(0.0)))+min(max(q.x,max(q.y,q.z)),0.0)-r;"]
  wgsl := definition "fn sdBox(p: vec3<f32>, b: vec3<f32>, r: f32) -> f32"
    ["let q = abs(p)-b+vec3(r);",
     "return length(max(q,vec3(0.0)))+min(max(q.x,max(q.y,q.z)),0.0)-r;"]

/-- Distance to a torus. -/
def torus : Function where
  name := "sdTorus"
  glsl := definition "float sdTorus(vec3 p, vec2 t)"
    ["vec2 q = vec2(length(p.xz)-t.x,p.y);", "return length(q)-t.y;"]
  wgsl := definition "fn sdTorus(p: vec3<f32>, t: vec2<f32>) -> f32"
    ["let q = vec2(length(p.xz)-t.x,p.y);", "return length(q)-t.y;"]

/-- Rotation by an angle proportional to the first coordinate. -/
def bend : Function where
  name := "opBend"
  glsl := definition "vec3 opBend(vec3 p, float k)"
    ["float c = cos(k*p.x);", "float s = sin(k*p.x);", "mat2 m = mat2(c,-s,s,c);",
     "return vec3(m*p.xy,p.z);"]
  wgsl := definition "fn opBend(p: vec3<f32>, k: f32) -> vec3<f32>"
    ["let c = cos(k*p.x);", "let s = sin(k*p.x);", "let m = mat2x2<f32>(c,-s,s,c);",
     "return vec3(m*p.xy,p.z);"]

/-- Rotation by an angle proportional to the second coordinate. -/
def twist : Function where
  name := "opTwist"
  glsl := definition "vec3 opTwist(vec3 p, float k)"
    ["float c = cos(k*p.y);", "float s = sin(k*p.y);", "mat2 m = mat2(c,-s,s,c);",
     "return vec3(m*p.xz,p.y);"]
  wgsl := definition "fn opTwist(p: vec3<f32>, k: f32) -> vec3<f32>"
    ["let c = cos(k*p.y);", "let s = sin(k*p.y);", "let m = mat2x2<f32>(c,-s,s,c);",
     "return vec3(m*p.xz,p.y);"]

/-- Folding onto the positive side of flagged axes. -/
def mirror : Function where
  name := "opMirror"
  glsl := definition "vec3 opMirror(vec3 p, vec3 m)"
    ["return mix(p,abs(p),step(vec3(0.5),m));"]
  wgsl := definition "fn opMirror(p: vec3<f32>, m: vec3<f32>) -> vec3<f32>"
    ["return mix(p,abs(p),step(vec3(0.5),m));"]

/-- Smooth minimum. -/
def smoothUnion : Function where
  name := "opSmoothUnion"
  glsl := definition "float opSmoothUnion(float a, float b, float k)"
    ["float h = clamp(0.5+0.5*(b-a)/k,0.0,1.0);", "return mix(b,a,h)-k*h*(1.0-h);"]
  wgsl := definition "fn opSmoothUnion(a: f32, b: f32, k: f32) -> f32"
    ["let h = clamp(0.5+0.5*(b-a)/k,0.0,1.0);", "return mix(b,a,h)-k*h*(1.0-h);"]

/-- Smooth maximum. -/
def smoothIntersection : Function where
  name := "opSmoothIntersect"
  glsl := definition "float opSmoothIntersect(float a, float b, float k)"
    ["float h = clamp(0.5-0.5*(b-a)/k,0.0,1.0);", "return mix(b,a,h)+k*h*(1.0-h);"]
  wgsl := definition "fn opSmoothIntersect(a: f32, b: f32, k: f32) -> f32"
    ["let h = clamp(0.5-0.5*(b-a)/k,0.0,1.0);", "return mix(b,a,h)+k*h*(1.0-h);"]

/-- Smooth removal. -/
def smoothDifference : Function where
  name := "opSmoothDiff"
  glsl := definition "float opSmoothDiff(float a, float b, float k)"
    ["float h = clamp(0.5-0.5*(b+a)/k,0.0,1.0);", "return mix(a,-b,h)+k*h*(1.0-h);"]
  wgsl := definition "fn opSmoothDiff(a: f32, b: f32, k: f32) -> f32"
    ["let h = clamp(0.5-0.5*(b+a)/k,0.0,1.0);", "return mix(a,-b,h)+k*h*(1.0-h);"]

end Library

end FieldGraph.Shader
