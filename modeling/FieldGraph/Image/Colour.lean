import FieldGraph.Geometry.Vec
import FieldGraph.Image.Hue

/-!
# Colours of distances

A conversion turns a distance into a colour: two tones by the sign, a gradient across the
surface, or shaded bands that fade towards the surface.
-/

namespace FieldGraph

/-- A colour of eight bit components, multiplied by its opacity. -/
structure Colour where
  r : UInt8
  g : UInt8
  b : UInt8
  a : UInt8
  deriving DecidableEq, Repr

namespace Colour

/-- Nothing painted. -/
def clear : Colour := ⟨0, 0, 0, 0⟩

/-- Full black. -/
def black : Colour := ⟨0, 0, 0, 255⟩

/-- Full white. -/
def white : Colour := ⟨255, 255, 255, 255⟩

/-- The colour of distances that are no numbers. -/
def red : Colour := ⟨255, 0, 0, 255⟩

/-- An opaque gray. -/
def gray (y : UInt8) : Colour := ⟨y, y, y, 255⟩

/-- The components of a packed 24 bit colour, opaque. -/
def ofPacked (c : UInt32) : Colour := ⟨(c >>> 16).toUInt8, (c >>> 8).toUInt8, c.toUInt8, 255⟩

/-- Hue, saturation and value of a colour. -/
def toHue (c : Colour) : Float32 × Float32 × Float32 :=
  Hue.ofRgb (c.r.toFloat32 / 255) (c.g.toFloat32 / 255) (c.b.toFloat32 / 255)

end Colour

/-- Components from zero to one as a packed 24 bit colour; others are clamped. -/
def packRgb (r g b : Float32) : UInt32 :=
  let level (v : Float32) : UInt32 := (Single.clamp v 0 1 * 255).toUInt32
  (level r <<< 16) ||| (level g <<< 8) ||| level b

/-- An end of a gradient. The pure tones are told from equal looking colours. -/
inductive Stop where
  | black
  | white
  | of (colour : Colour)
  deriving DecidableEq, Repr

/-- The colour of a gradient end. -/
def Stop.colour : Stop → Colour
  | black => .black
  | white => .white
  | of colour => colour

/-- A way to colour distances. -/
inductive Shading where
  /-- White outside, black inside and on the surface. -/
  | twoTone
  /-- Bands in warm and cold colours with a bright line at the surface; the length sets their
  scale. -/
  | bands (length : Float32)
  /-- A gradient of a given width across the surface. -/
  | gradient (width : Float32) (inner outer : Stop)

namespace Shading

/-- White outside, black inside, red for what is no finite number. -/
def twoToneColour (d : Float32) : Colour :=
  if d.isNaN || d.isInf then .red else if d > 0 then .white else .black

/-- Shaded bands. The factor is the inverse of the characteristic length. -/
def bandColour (factor d : Float32) : Colour :=
  if d.isNaN then .red
  else
    let d := d * factor
    let away := Single.abs d
    let base : Vec3 := if d > 0 then ⟨0.9, 0.6, 0.3⟩ else ⟨0.65, 0.85, 1.0⟩
    let faded := Vec3.scale (1 - (-6 * away).exp) base
    let waved := Vec3.scale (0.8 + 0.2 * Single.cos (150 * d)) faded
    let edge := 1 - Single.smoothStep 0 0.01 away
    let level (c : Float32) : UInt8 :=
      (Single.clamp (Single.interpolate c 1 edge) 0 1 * 255).toUInt8
    ⟨level waved.x, level waved.y, level waved.z, 255⟩

/-- Black to white across the surface; without width a step at zero. -/
def grayColour (width d : Float32) : Colour :=
  if width == 0 then (if d < 0 then .black else .white)
  else
    let t := d / width + 0.5
    if t ≤ 0 then .black
    else if t ≥ 1 then .white
    else .gray (Single.clamp t 0 1 * 255).toUInt8

/-- A gradient through the hue circle. -/
def hueColour (width : Float32) (inner outer : Colour) (d : Float32) : Colour :=
  let t := d / width + 0.5
  if t ≤ 0 then inner
  else if t ≥ 1 then outer
  else
    let (h0, s0, v0) := inner.toHue
    let (h1, s1, v1) := outer.toHue
    let (h, s, v) := Hue.blend h0 s0 v0 h1 s1 v1 t
    let (r, g, b) := Hue.toRgb h s v
    .ofPacked (packRgb r g b)

/-- The colour of a distance. -/
def colour : Shading → Float32 → Colour
  | twoTone => twoToneColour
  | bands length => bandColour (1 / length)
  | gradient width .black .white => grayColour width
  | gradient width inner outer => hueColour width inner.colour outer.colour

end Shading

end FieldGraph
