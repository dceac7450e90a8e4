import FieldGraph.Image.Raster

/-!
# Enlarging images

An image is enlarged by the cubic of Catmull and Rom, first along rows, then along columns, in
double precision. Every target position is the normalised weighted sum of the source pixels
less than two pixels away. Components are limited to the opacity before they are rounded.
-/

namespace FieldGraph.Upscale

/-- The cubic at a distance from its centre, for distances below two. -/
def weight (t : Float) : Float :=
  if t < 1 then (1.5 * t - 2.5) * t * t + 1 else ((-0.5 * t + 2.5) * t - 4) * t + 2

/-- Source positions with their weights, and the inverse of the weights' sum. -/
structure Kernel where
  parts : List (Nat × Float)
  inverse : Float

/-- A float without its fraction towards negative infinity, cut off below zero. -/
private def floorNat (x : Float) : Nat := if x ≤ 0 then 0 else x.floor.toUInt64.toNat

/-- A float rounded towards positive infinity, cut off below zero. -/
private def ceilNat (x : Float) : Nat := if x ≤ 0 then 0 else x.ceil.toUInt64.toNat

/-- The kernel of one target position out of `target` for `source` pixels. -/
def kernelAt (target source position : Nat) : Kernel :=
  let scale := source.toFloat / target.toFloat
  let centre := (position.toFloat + 0.5) * scale - 0.5
  let first := floorNat (centre - 2)
  let last := min source (ceilNat (centre + 2))
  let parts := (List.range' first (last - first)).filterMap fun coordinate =>
    let t := (centre - coordinate.toFloat).abs
    if t ≥ 2 then none
    else
      let w := weight t
      if w == 0 then none else some (coordinate, w)
  ⟨parts, 1 / parts.foldl (fun total part => total + part.2) 0⟩

/-- The kernels of all target positions. -/
def kernels (target source : Nat) : List Kernel :=
  (List.range target).map (kernelAt target source)

/-- A colour while it is being summed. -/
structure Level where
  r : Float := 0
  g : Float := 0
  b : Float := 0
  a : Float := 0

/-- Add a weighted level. -/
def Level.add (total level : Level) (w : Float) : Level :=
  ⟨total.r + level.r * w, total.g + level.g * w, total.b + level.b * w, total.a + level.a * w⟩

/-- Multiply a level. -/
def Level.scale (level : Level) (f : Float) : Level :=
  ⟨level.r * f, level.g * f, level.b * f, level.a * f⟩

/-- A colour with sixteen bits a component. -/
def Level.ofColour (c : Colour) : Level :=
  let wide (v : UInt8) : Float := (v.toNat * 0x101).toFloat
  ⟨wide c.r, wide c.g, wide c.b, wide c.a⟩

/-- The weighted sum of levels. -/
def Level.sum (levels : Array Level) (kernel : Kernel) : Level :=
  kernel.parts.foldl (fun total (position, w) => total.add (levels.getD position {}) w) {}

/-- The upper byte of a component from zero to one, rounded to sixteen bits. -/
def byte (f : Float) : UInt8 :=
  let wide := 65535 * f + 0.5
  if wide ≤ 0 then 0
  else if wide ≥ 65536 then 255
  else (wide.toUInt32 >>> 8).toUInt8

/-- The colour of a vertical sum. -/
def Level.toColour (level : Level) (inverse : Float) : Colour :=
  let limited (v : Float) : Float := if v > level.a then level.a else v
  ⟨byte (limited level.r * inverse), byte (limited level.g * inverse),
   byte (limited level.b * inverse), byte (level.a * inverse)⟩

/-- Enlarge rows of equal length. -/
def enlarge (rows : List (List Colour)) (width height factor : Nat) : List (List Colour) :=
  let across := kernels (width * factor) width
  let down := kernels (height * factor) height
  let wide : Array (Array Level) := (rows.map fun row =>
    let levels := (row.map Level.ofColour).toArray
    (across.map fun kernel =>
      (Level.sum levels kernel).scale (kernel.inverse / 65535)).toArray).toArray
  down.map fun kernel =>
    (List.range (width * factor)).map fun x =>
      let total := kernel.parts.foldl (fun (total : Level) (y, w) =>
        total.add ((wide.getD y #[]).getD x {}) w) {}
      total.toColour kernel.inverse

end FieldGraph.Upscale
