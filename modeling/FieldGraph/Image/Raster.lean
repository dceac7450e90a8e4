import FieldGraph.Field.Pool
import FieldGraph.Field.Source
import FieldGraph.Image.Colour

/-!
# Images of slices

A slice of a field at a height is painted row by row. Every pixel gets the colour of the
distance at its centre, the first row lying at the largest second coordinate. What a colour is
does not matter to the renderer, which is given a conversion from distances. Each row is one
batch: if it fails, it and all later rows keep their colours. All rows go through the same two
buffers, of which a row uses the first places.
-/

namespace FieldGraph

/-- A rectangle of pixels. -/
structure Image (Pixel : Type) where
  /-- Coordinates of the first pixel. -/
  minX : Int
  minY : Int
  /-- Rows of equal length, top first. -/
  rows : List (List Pixel)
  deriving DecidableEq, Repr

namespace Image

variable {Pixel : Type}

/-- A rectangle of equal pixels. Corners may be given in any order. -/
def filled (c : Pixel) (x0 y0 x1 y1 : Int) : Image Pixel where
  minX := min x0 x1
  minY := min y0 y1
  rows := List.replicate (y1 - y0).natAbs (List.replicate (x1 - x0).natAbs c)

/-- A rectangle with nothing painted. -/
def blank : Int → Int → Int → Int → Image Colour := filled .clear

/-- Number of pixels in a row. -/
def width (i : Image Pixel) : Nat := (i.rows.head?.map List.length).getD 0

/-- Number of rows. -/
def height (i : Image Pixel) : Nat := i.rows.length

/-- Set a pixel. Places outside the image are passed over. -/
def set (i : Image Pixel) (x y : Int) (c : Pixel) : Image Pixel :=
  if i.minX ≤ x ∧ i.minY ≤ y then
    { i with rows := i.rows.modify (y - i.minY).toNat (·.set (x - i.minX).toNat c) }
  else i

/-- Set pixels side by side, from a place on. -/
def setRun (i : Image Pixel) (x y : Int) : List Pixel → Image Pixel
  | [] => i
  | c :: colours => (i.set x y c).setRun (x + 1) y colours

end Image

/-- Why an image was not painted. -/
inductive RenderError where
  | smallBuffer
  | emptyImage
  /-- The buffer does not hold a row. -/
  | shortBuffer (buffer row : Nat)
  | evaluation (error : EvalError)
  | noSource
  deriving DecidableEq, Repr

/-- The text of a render error. -/
def RenderError.message : RenderError → String
  | smallBuffer => "too small evaluation buffer size"
  | emptyImage => "empty image"
  | shortBuffer buffer row =>
      "require evaluation buffer (" ++ toString buffer ++
        ") to be at least of length of image rows (" ++ toString row ++ ")"
  | evaluation error => error.message
  | noSource => "nil SDF"

/-- Paints slices. -/
structure SliceRenderer (Pixel : Type) where
  /-- Buffer for the points of a row, with the points of earlier rows in it. -/
  points : List Vec3
  /-- Buffer of the same size for their distances. -/
  distances : List Float32
  /-- The colour of a distance. -/
  colour : Float32 → Pixel
  /-- Height of the slice. -/
  z : Float32 := 0

namespace SliceRenderer

variable {Pixel : Type}

/-- A renderer with fresh buffers of a size. -/
def ofSize (size : Nat) (colour : Float32 → Pixel) (z : Float32) : SliceRenderer Pixel where
  points := List.replicate size .zero
  distances := List.replicate size 0
  colour := colour
  z := z

/-- A renderer with buffers of more than 64 places. -/
def make (buffer : Int) (colour : Float32 → Pixel) (z : Float32) :
    Except RenderError (SliceRenderer Pixel) :=
  if buffer ≤ 64 then .error .smallBuffer else .ok (ofSize buffer.toNat colour z)

/-- A renderer for a shading, in two tones if none is given. -/
def ofShading (buffer : Int) (shading : Option Shading) (z : Float32) :
    Except RenderError (SliceRenderer Colour) :=
  make buffer (shading.getD .twoTone).colour z

/-- The points of a row: pixel centres from `left` on, `dx` apart. -/
def rowPoints (r : SliceRenderer Pixel) (left y dx : Float32) (width : Nat) : List Vec3 :=
  (List.range width).map fun i => ⟨left + i.toFloat32 * dx, y, r.z⟩

/-- Paint a row by its number, and keep the renderer with what the row left in the buffers. -/
def paintRow {σ : Type} (r : SliceRenderer Pixel) (source : Source σ) (left y dx : Float32)
    (width j : Nat) (image : Image Pixel) :
    StateM σ (Option EvalError × SliceRenderer Pixel × Image Pixel) := do
  let r := { r with points := Pool.overwrite r.points (r.rowPoints left y dx width) }
  match ← (source.evaluate (r.points.take width) width).run with
  | .error error => return (some error, r, image)
  | .ok distances =>
      let r := { r with distances := Pool.overwrite r.distances distances }
      let colours := (r.distances.take width).map r.colour
      return (none, r, image.setRun image.minX (j + image.minY) colours)

/-- Paint rows by their numbers, stopping at the first failing batch. -/
def paint {σ : Type} (r : SliceRenderer Pixel) (source : Source σ) (left top dx dy : Float32)
    (width : Nat) : List Nat → Image Pixel → StateM σ (Image Pixel × Option EvalError)
  | [], image => return (image, none)
  | j :: rest, image => do
      match ← r.paintRow source left (top - (j.toFloat32 + 0.5) * dy) dx width j image with
      | (some error, _, image) => return (image, some error)
      | (none, r, image) => r.paint source left top dx dy width rest image

/-- Paint a slice over the whole image. -/
def render {σ : Type} (r : SliceRenderer Pixel) (source : Source σ) (image : Image Pixel) :
    StateM σ (Image Pixel × Option RenderError) :=
  if image.width = 0 ∨ image.height = 0 then return (image, some .emptyImage)
  else if r.distances.length < image.width then
    return (image, some (.shortBuffer r.distances.length image.width))
  else do
    let low := source.bounds.min
    let high := source.bounds.max
    let dx := (high.x - low.x) / image.width.toFloat32
    let dy := (high.y - low.y) / image.height.toFloat32
    let (image, error) ←
      r.paint source (low.x + dx / 2) high.y dx dy image.width (List.range image.height) image
    return (image, error.map .evaluation)

end SliceRenderer

end FieldGraph
