import FieldGraph.Geometry.Vec

/-!
# Distance functions and space deformations

Exact distances to the solids with more than a one line formula, and the maps of space that
deform a solid by moving the point at which it is sampled.
-/

namespace FieldGraph.Shape

/-- Distance to a box with the given half sizes, its edges rounded inside the box. -/
def box (p halfSize : Vec3) (round : Float32) : Float32 :=
  let q := (p.abs.sub halfSize).shift round
  (q.greatest .zero).norm +
    Single.least (Single.greatest q.x (Single.greatest q.y q.z)) 0 - round

/-- Distance to a torus lying on the plane of the first and last axes. -/
def torus (p : Vec3) (major minor : Float32) : Float32 :=
  Single.hypot (Single.hypot p.x p.z - major) p.y - minor

/-- Rotate the first two coordinates by an angle proportional to the first. -/
def bend (p : Vec3) (k : Float32) : Vec3 :=
  let (s, c) := Single.sincos (k * p.x)
  ⟨c * p.x + s * p.y, -s * p.x + c * p.y, p.z⟩

/-- Rotate the first and last coordinates by an angle proportional to the second. The result
has its last two coordinates exchanged, as the shader function has. -/
def twist (p : Vec3) (k : Float32) : Vec3 :=
  let (s, c) := Single.sincos (k * p.y)
  ⟨c * p.x + s * p.z, -s * p.x + c * p.z, p.y⟩

/-- Fold onto the positive side every axis whose flag is at least one half. -/
def mirror (p axes : Vec3) : Vec3 :=
  ⟨if axes.x ≥ 0.5 then Single.abs p.x else p.x,
   if axes.y ≥ 0.5 then Single.abs p.y else p.y,
   if axes.z ≥ 0.5 then Single.abs p.z else p.z⟩

end FieldGraph.Shape
