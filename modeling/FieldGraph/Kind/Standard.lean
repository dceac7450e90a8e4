import FieldGraph.Geometry.Blend
import FieldGraph.Geometry.Shape
import FieldGraph.Kind.Catalog
import FieldGraph.Kind.Snippet
import FieldGraph.Shader.Library

/-!
# The standard kinds

Primitives, domain operators, combinators, values and the output. Each kind gives its code and
its direct evaluation side by side: both sample the same inputs at the same points and join the
results by the same operations.
-/

namespace FieldGraph.Kind

open Snippet

/-- Largest magnitude of lengths and coordinates. -/
def limit : Float32 := 10000

/-- The single output of every kind that produces a distance. -/
def distanceOutput : List PortSpec := [⟨"distance", .distance, false⟩]

/-- A primitive is sampled at the incoming point unless a point is connected. -/
def pointInput : List PortSpec := [⟨"p", .point, true⟩]

/-- Domain operators take a distance and sometimes an input that overrides a parameter. -/
def domainInputs (override : List PortSpec) : List PortSpec :=
  ⟨"distance", .distance, false⟩ :: override

/-- A parameter that may be anything up to the limit. -/
def coordinate (name : String) : ParamSpec := ⟨name, 0, -limit, limit⟩

/-- A parameter that may be anything from zero up to the limit. -/
def length (name : String) (default : Float32) : ParamSpec := ⟨name, default, 0, limit⟩

/-- The text of the numbered parameter. -/
def paramText (params : List String) (index : Nat) : String := params.getD index ""

/-- The value of the numbered parameter. -/
@[inline] def paramValue (params : List Float32) (index : Nat) : Float32 := params.getD index 0

/-- The first three parameters as a vector expression. -/
def vectorText (params : List String) : String :=
  vec3 (paramText params 0) (paramText params 1) (paramText params 2)

/-- The first three parameters as a vector. -/
def vectorValue (params : List Float32) : Vec3 :=
  ⟨paramValue params 0, paramValue params 1, paramValue params 2⟩

/-- The second input if it is fed, else the first parameter. -/
def overrideText (p : String) (inputs : List Input) (params : List String) : String :=
  if Input.connectedAt inputs 1 then Input.exprAt inputs 1 p else paramText params 0

/-- The value of the second input if it is fed, else the first parameter. -/
def overrideValue (p : Vec3) (wired : List Bool) (params : List Float32) : Probe Float32 :=
  if wired.getD 1 false then do return (← Probe.sample 1 p).s
  else return paramValue params 0

/-- A ball around the origin. -/
def sphere : Kind where
  id := "sphere"
  category := .primitive
  inputs := pointInput
  outputs := distanceOutput
  params := [length "radius" 1]
  template := fun p inputs params =>
    "length(" ++ Input.exprAt inputs 0 p ++ ")-" ++ paren (paramText params 0)
  evaluate := fun p _ params => do
    let q ← Probe.sample 0 p
    return { s := q.v.norm - paramValue params 0 }

/-- A box around the origin. -/
def cube : Kind where
  id := "cube"
  category := .primitive
  inputs := pointInput
  outputs := distanceOutput
  params := [length "x" 0.5, length "y" 0.5, length "z" 0.5, length "round" 0]
  library := [Shader.Library.box]
  template := fun p inputs params =>
    call "sdBox" [Input.exprAt inputs 0 p, vectorText params, paramText params 3]
  evaluate := fun p _ params => do
    let q ← Probe.sample 0 p
    return { s := Shape.box q.v (vectorValue params) (paramValue params 3) }

/-- The half space below a height. -/
def plane : Kind where
  id := "plane"
  category := .primitive
  inputs := pointInput
  outputs := distanceOutput
  params := [coordinate "height"]
  template := fun p inputs params =>
    swizzle (Input.exprAt inputs 0 p) "y" ++ "-" ++ paren (paramText params 0)
  evaluate := fun p _ params => do
    let q ← Probe.sample 0 p
    return { s := q.v.y - paramValue params 0 }

/-- A torus around the second axis. -/
def torus : Kind where
  id := "torus"
  category := .primitive
  inputs := pointInput
  outputs := distanceOutput
  params := [length "major" 1, length "minor" 0.25]
  library := [Shader.Library.torus]
  template := fun p inputs params =>
    call "sdTorus" [Input.exprAt inputs 0 p,
      call "vec2" [paramText params 0, paramText params 1]]
  evaluate := fun p _ params => do
    let q ← Probe.sample 0 p
    return { s := Shape.torus q.v (paramValue params 0) (paramValue params 1) }

/-- Moves its input by sampling it at the moved point. -/
def translate : Kind where
  id := "translate"
  category := .domain
  inputs := domainInputs [⟨"offset", .vector3, true⟩]
  outputs := distanceOutput
  params := [coordinate "x", coordinate "y", coordinate "z"]
  template := fun p inputs params =>
    let offset :=
      if Input.connectedAt inputs 1 then Input.exprAt inputs 1 p else vectorText params
    Input.exprAt inputs 0 (p ++ "-" ++ paren offset)
  evaluate := fun p wired params => do
    let offset ←
      if wired.getD 1 false then do pure (← Probe.sample 1 p).v else pure (vectorValue params)
    Probe.sample 0 (p.sub offset)

/-- Scales its input uniformly. -/
def scale : Kind where
  id := "scale"
  category := .domain
  inputs := domainInputs [⟨"factor", .scalar, true⟩]
  outputs := distanceOutput
  params := [⟨"factor", 1, 1e-4, limit⟩]
  template := fun p inputs params =>
    let s := paren (overrideText p inputs params)
    paren (Input.exprAt inputs 0 (paren p ++ "/" ++ s)) ++ "*" ++ s
  evaluate := fun p wired params => do
    let s ← overrideValue p wired params
    let d ← Probe.sample 0 (Vec3.scale (1 / s) p)
    return { s := d.s * s }

/-- Bends its input around the last axis. -/
def bend : Kind where
  id := "bend"
  category := .domain
  inputs := domainInputs [⟨"k", .scalar, true⟩]
  outputs := distanceOutput
  params := [⟨"k", 0, -100, 100⟩]
  library := [Shader.Library.bend]
  template := fun p inputs params =>
    Input.exprAt inputs 0 (call "opBend" [p, overrideText p inputs params])
  evaluate := fun p wired params => do
    let k ← overrideValue p wired params
    Probe.sample 0 (Shape.bend p k)

/-- Twists its input around the second axis. -/
def twist : Kind where
  id := "twist"
  category := .domain
  inputs := domainInputs [⟨"k", .scalar, true⟩]
  outputs := distanceOutput
  params := [⟨"k", 0, -100, 100⟩]
  library := [Shader.Library.twist]
  template := fun p inputs params =>
    Input.exprAt inputs 0 (call "opTwist" [p, overrideText p inputs params])
  evaluate := fun p wired params => do
    let k ← overrideValue p wired params
    Probe.sample 0 (Shape.twist p k)

/-- Makes its input symmetric about the planes of the flagged axes. -/
def mirror : Kind where
  id := "mirror"
  category := .domain
  inputs := domainInputs []
  outputs := distanceOutput
  params := [⟨"x", 1, 0, 1⟩, ⟨"y", 0, 0, 1⟩, ⟨"z", 0, 0, 1⟩]
  library := [Shader.Library.mirror]
  template := fun p inputs params =>
    Input.exprAt inputs 0 (call "opMirror" [p, vectorText params])
  evaluate := fun p _ params => Probe.sample 0 (Shape.mirror p (vectorValue params))

/-- Inflates its input, which rounds off edges. -/
def round : Kind where
  id := "round"
  category := .domain
  inputs := domainInputs [⟨"radius", .scalar, true⟩]
  outputs := distanceOutput
  params := [length "radius" 0]
  template := fun p inputs params =>
    Input.exprAt inputs 0 p ++ "-" ++ paren (overrideText p inputs params)
  evaluate := fun p wired params => do
    let d ← Probe.sample 0 p
    let r ← overrideValue p wired params
    return { s := d.s - r }

/-- Hollows its input, leaving a wall. -/
def shell : Kind where
  id := "shell"
  category := .domain
  inputs := domainInputs [⟨"thickness", .scalar, true⟩]
  outputs := distanceOutput
  params := [length "thickness" 0.05]
  template := fun p inputs params =>
    call "abs" [Input.exprAt inputs 0 p] ++ "-" ++ paren (overrideText p inputs params)
  evaluate := fun p wired params => do
    let d ← Probe.sample 0 p
    let t ← overrideValue p wired params
    return { s := Single.abs d.s - t }

/-- Combinators take two distances and up to two more. -/
def combinatorInputs : List PortSpec :=
  [⟨"a", .distance, false⟩, ⟨"b", .distance, false⟩, ⟨"c", .distance, true⟩,
   ⟨"d", .distance, true⟩]

/-- Width of a smooth blend. -/
def smoothing : ParamSpec := ⟨"k", 0.25, 1e-4, 100⟩

/-- Join the values of the fed inputs from one on to an accumulated value. -/
def foldProbe (p : Vec3) (join : Float32 → Float32 → Float32) (acc : Float32) (index : Nat) :
    List Bool → Probe Float32
  | [] => .done acc
  | true :: rest =>
      .ask index p fun sample => foldProbe p join (join acc sample.s) (index + 1) rest
  | false :: rest => foldProbe p join acc (index + 1) rest

/-- A kind that joins its fed inputs from left to right. -/
def combinator (id : String) (library : List Shader.Function) (params : List ParamSpec)
    (joinText : List String → String → String → String)
    (join : List Float32 → Float32 → Float32 → Float32) : Kind where
  id := id
  category := .combinator
  inputs := combinatorInputs
  outputs := distanceOutput
  params := params
  library := library
  template := fun p inputs params =>
    (inputs.drop 1).foldl
      (fun acc input => if input.connected then joinText params acc (input.expr p) else acc)
      (Input.exprAt inputs 0 p)
  evaluate := fun p wired params => do
    let first ← Probe.sample 0 p
    let all ← foldProbe p (join params) first.s 1 (wired.drop 1)
    return { s := all }

/-- Everything in any of the inputs. -/
def union : Kind :=
  combinator "union" [] [] (fun _ a b => call "min" [a, b]) (fun _ a b => Single.least a b)

/-- Everything in all of the inputs. -/
def intersection : Kind :=
  combinator "intersection" [] [] (fun _ a b => call "max" [a, b])
    (fun _ a b => Single.greatest a b)

/-- The first input without the others. -/
def difference : Kind :=
  combinator "difference" [] [] (fun _ a b => call "max" [a, "-" ++ paren b])
    (fun _ a b => Single.greatest a (-b))

/-- Union with a fillet. -/
def smoothUnion : Kind :=
  combinator "smooth-min" [Shader.Library.smoothUnion] [smoothing]
    (fun params a b => call "opSmoothUnion" [a, b, paramText params 0])
    (fun params a b => Blend.union a b (paramValue params 0))

/-- Intersection with a chamfered rim. -/
def smoothIntersection : Kind :=
  combinator "smooth-intersection" [Shader.Library.smoothIntersection] [smoothing]
    (fun params a b => call "opSmoothIntersect" [a, b, paramText params 0])
    (fun params a b => Blend.intersection a b (paramValue params 0))

/-- Difference with a softened cut. -/
def smoothDifference : Kind :=
  combinator "smooth-difference" [Shader.Library.smoothDifference] [smoothing]
    (fun params a b => call "opSmoothDiff" [a, b, paramText params 0])
    (fun params a b => Blend.difference a b (paramValue params 0))

/-- A constant number. -/
def scalar : Kind where
  id := "scalar"
  category := .value
  outputs := [⟨"value", .scalar, false⟩]
  params := [coordinate "value"]
  template := fun _ _ params => paramText params 0
  evaluate := fun _ _ params => return { s := paramValue params 0 }

/-- A constant vector. -/
def vector3 : Kind where
  id := "vector3"
  category := .value
  outputs := [⟨"value", .vector3, false⟩]
  params := [coordinate "x", coordinate "y", coordinate "z"]
  template := fun _ _ params => vectorText params
  evaluate := fun _ _ params => return { v := vectorValue params }

/-- The point at which the node is sampled. -/
def position : Kind where
  id := "position"
  category := .value
  outputs := [⟨"point", .point, false⟩]
  template := fun p _ _ => p
  evaluate := fun p _ _ => return { v := p }

/-- The end of the graph. -/
def output : Kind where
  id := "output"
  category := .output
  inputs := [⟨"distance", .distance, false⟩]
  template := fun p inputs _ => Input.exprAt inputs 0 p
  evaluate := fun p _ _ => Probe.sample 0 p

/-- All standard kinds. -/
def standard : List Kind :=
  [sphere, cube, plane, torus, translate, scale, bend, twist, mirror, round, shell, union,
   intersection, difference, smoothUnion, smoothIntersection, smoothDifference, scalar, vector3,
   position, output]

end FieldGraph.Kind

/-- The catalog of the standard kinds. -/
def FieldGraph.Catalog.standard : FieldGraph.Catalog :=
  (FieldGraph.Kind.standard.map FieldGraph.Kind.draft).foldl FieldGraph.Catalog.extend .empty
