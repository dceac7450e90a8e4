import FieldGraph.Image.Upscale

/-!
# Slice pictures

A picture of a slice: the image is painted with default size and shading where none is given
and then enlarged if asked for.
-/

namespace FieldGraph

/-- What a slice picture should look like. -/
structure SliceConfig where
  /-- Pixels across and down; values that are not positive mean 256. -/
  width : Int := 0
  height : Int := 0
  /-- Height of the slice. -/
  z : Float32 := 0
  /-- Enlargement; below two none. -/
  upscale : Int := 0
  /-- Bands scaled to a third of the bounds' diagonal if not given. -/
  shading : Option Shading := none

/-- Paint a slice picture. -/
def renderSlice {σ : Type} (source : Option (Source σ)) (config : SliceConfig) :
    StateM σ (Except RenderError (List (List Colour))) :=
  match source with
  | none => return .error .noSource
  | some source => do
      let width := if config.width ≤ 0 then 256 else config.width.toNat
      let height := if config.height ≤ 0 then 256 else config.height.toNat
      let shading := config.shading.getD (.bands (source.bounds.size.norm / 3))
      let renderer : SliceRenderer Colour := .ofSize (max width 65) shading.colour config.z
      let (image, error) ← renderer.render source (.blank 0 0 width height)
      match error with
      | some error => return .error error
      | none =>
          if 1 < config.upscale then
            return .ok (Upscale.enlarge image.rows width height config.upscale.toNat)
          else return .ok image.rows

end FieldGraph
