import FieldGraph.Number.Scalar

/-!
# Hue, saturation and value

Conversion between red, green, blue and hue, saturation, value, all of them from zero to one.
The hue circle has six sectors; in each, one component is largest, one is smallest and one
varies linearly.
-/

namespace FieldGraph.Hue

variable {α : Type} [Scalar α]

open Scalar

/-- A fraction of naturals as a number. -/
@[inline] def ratio (num den : Nat) : α := natural num / natural den

/-- Hue, saturation and value of a colour. Of equal largest components red decides before green
and green before blue. -/
def ofRgb (r g b : α) : α × α × α :=
  let largest := larger (larger r g) b
  let smallest := smaller (smaller r g) b
  let chroma := largest - smallest
  let turn : α :=
    if same chroma zero then zero
    else if same largest r then (g - b) / (chroma * natural 6)
    else if same largest g then ratio 1 3 + (b - r) / (chroma * natural 6)
    else if same largest b then ratio 2 3 + (r - g) / (chroma * natural 6)
    else zero
  let hue := if less turn zero then turn + one else turn
  let saturation := if less zero largest then chroma / largest else zero
  (hue, saturation, largest)

/-- Whether a hue lies in the half open sector above one sixth and up to another. -/
@[inline] def inSector (hue : α) (low high : α) : Bool := less low hue && atMost hue high

/-- The colour of a hue, saturation and value. A hue outside the circle gives gray. -/
def toRgb (hue saturation value : α) : α × α × α :=
  let c := saturation * value
  let x := c * (one - magnitude (remainder (hue * natural 6) (natural 2) - one))
  let m := value - c
  let (r, g, b) : α × α × α :=
    if atMost zero hue && atMost hue (ratio 1 6) then (c, x, zero)
    else if inSector hue (ratio 1 6) (ratio 2 6) then (x, c, zero)
    else if inSector hue (ratio 2 6) (ratio 3 6) then (zero, c, x)
    else if inSector hue (ratio 3 6) (ratio 4 6) then (zero, x, c)
    else if inSector hue (ratio 4 6) (ratio 5 6) then (x, zero, c)
    else if inSector hue (ratio 5 6) one then (c, zero, x)
    else (zero, zero, zero)
  (r + m, g + m, b + m)

/-- Blend two colours along the shorter arc of the hue circle. -/
def blend (h0 s0 v0 h1 s1 v1 t : α) : α × α × α :=
  let far := less half (h1 - h0)
  let near := less (h1 - h0) (-half)
  let start := if far then h0 + one else h0
  let stop := if !far && near then h1 + one else h1
  (remainder (mix start stop t) one, mix s0 s1 t, mix v0 v1 t)

end FieldGraph.Hue
