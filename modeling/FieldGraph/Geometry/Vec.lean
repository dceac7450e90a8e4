import FieldGraph.Number.Single

/-!
# Points and boxes

Planar and spatial vectors of single precision floats with the componentwise operations the
distance functions need. Equality of points follows the equality of floats: the two zeros are
equal and what is not a number equals nothing.
-/

namespace FieldGraph

/-- A point of an editor canvas. -/
structure Vec2 where
  x : Float32 := 0
  y : Float32 := 0

/-- A point or direction in space. -/
structure Vec3 where
  x : Float32 := 0
  y : Float32 := 0
  z : Float32 := 0

namespace Vec3

/-- The origin. -/
@[inline] def zero : Vec3 := ⟨0, 0, 0⟩

/-- Componentwise sum. -/
@[inline] def add (a b : Vec3) : Vec3 := ⟨a.x + b.x, a.y + b.y, a.z + b.z⟩

/-- Componentwise difference. -/
@[inline] def sub (a b : Vec3) : Vec3 := ⟨a.x - b.x, a.y - b.y, a.z - b.z⟩

/-- A multiple. -/
@[inline] def scale (f : Float32) (a : Vec3) : Vec3 := ⟨f * a.x, f * a.y, f * a.z⟩

/-- Add a number to every component. -/
@[inline] def shift (f : Float32) (a : Vec3) : Vec3 := ⟨a.x + f, a.y + f, a.z + f⟩

/-- Componentwise distance from zero. -/
@[inline] def abs (a : Vec3) : Vec3 := ⟨Single.abs a.x, Single.abs a.y, Single.abs a.z⟩

/-- Componentwise larger value. -/
@[inline] def greatest (a b : Vec3) : Vec3 :=
  ⟨Single.greatest a.x b.x, Single.greatest a.y b.y, Single.greatest a.z b.z⟩

/-- Euclidean length, folded from the last component. -/
def norm (a : Vec3) : Float32 := Single.hypot a.x (Single.hypot a.y a.z)

/-- Equality as the floats have it. -/
@[inline] def same (a b : Vec3) : Bool := a.x == b.x && a.y == b.y && a.z == b.z

end Vec3

/-- An axis aligned box. -/
structure Box where
  min : Vec3
  max : Vec3

/-- Extent of a box along each axis. -/
def Box.size (b : Box) : Vec3 := b.max.sub b.min

/-- The cube of a side length around the origin. -/
def Box.centred (side : Float32) : Box :=
  let half := side / 2
  ⟨⟨-half, -half, -half⟩, ⟨half, half, half⟩⟩

end FieldGraph
