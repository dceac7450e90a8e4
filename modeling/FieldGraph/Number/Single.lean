import FieldGraph.Number.Scalar

/-!
# Single precision functions

Lengths, dominating extrema, sines and cosines at single precision. Every function fixes the
order of its roundings, so that a value depends on its arguments alone and not on how a
machine fuses operations.
-/

namespace FieldGraph.Single

/-- Length of the hypotenuse without overflow of the squares. An infinite side wins over a side
that is not a number. -/
def hypot (x y : Float32) : Float32 :=
  if x.isInf || y.isInf then infinity
  else if x.isNaN || y.isNaN then nan
  else
    let a := abs x
    let b := abs y
    let long := if a < b then b else a
    let short := if a < b then a else b
    if long == 0 then 0
    else
      let ratio := short / long
      long * (1 + ratio * ratio).sqrt

/-- The larger operand, where positive infinity wins even over what is not a number. -/
def greatest (x y : Float32) : Float32 :=
  if x == infinity || y == infinity then infinity
  else if x.isNaN || y.isNaN then nan
  else if x == 0 && y == 0 then (if signed x then y else x)
  else if y < x then x else y

/-- The smaller operand, where negative infinity wins even over what is not a number. -/
def least (x y : Float32) : Float32 :=
  if x == -infinity || y == -infinity then -infinity
  else if x.isNaN || y.isNaN then nan
  else if x == 0 && y == 0 then (if signed x then x else y)
  else if x < y then x else y

/-- Keep a number between two bounds by the dominating extrema. -/
def clamp (v low high : Float32) : Float32 := least high (greatest v low)

/-- Coefficients of a polynomial of the fifth degree, highest power first. -/
structure Series where
  c0 : Float32
  c1 : Float32
  c2 : Float32
  c3 : Float32
  c4 : Float32
  c5 : Float32

/-- The value of a polynomial. -/
@[inline] def Series.value (s : Series) (x : Float32) : Float32 :=
  ((((((s.c0 * x) + s.c1) * x + s.c2) * x + s.c3) * x + s.c4) * x + s.c5)

/-- The terms of the sine after the first, divided by the cube of the argument. -/
def sineTerms : Series where
  c0 := 1.58962301576546568060e-10
  c1 := -2.50507477628578072866e-8
  c2 := 2.75573136213857245213e-6
  c3 := -1.98412698295895385996e-4
  c4 := 8.33333333332211858878e-3
  c5 := -1.66666666666666307295e-1

/-- The terms of the cosine after the second, divided by the fourth power of the argument. -/
def cosineTerms : Series where
  c0 := -1.13585365213876817300e-11
  c1 := 2.08757008419747316778e-9
  c2 := -2.75573141792967388112e-7
  c3 := 2.48015872888517045348e-5
  c4 := -1.38888888888730564116e-3
  c5 := 4.16666666666665929218e-2

/-- An eighth turn in three parts of falling size. -/
def eighthTurn : Float32 × Float32 × Float32 :=
  (7.85398125648498535156e-1, 3.77489470793079817668e-8, 2.69515142907905952645e-15)

/-- How many eighth turns are one. -/
def eighthTurns : Float32 := 1.27323954473516268615

/-- Sine on a reduced argument of at most an eighth turn, given with its square. -/
@[inline] def reducedSine (z zz : Float32) : Float32 := z + z * zz * sineTerms.value zz

/-- Cosine on a reduced argument of at most an eighth turn, given by its square. -/
@[inline] def reducedCosine (zz : Float32) : Float32 :=
  1 - 0.5 * zz + zz * zz * cosineTerms.value zz

/-- Sine and cosine. The argument is reduced by multiples of an eighth turn, subtracted in three
parts; octants decide which series to use and the signs. Arguments are assumed below `2 ^ 29`,
where the three parts are exact enough. -/
def sincos (x : Float32) : Float32 × Float32 :=
  if x == 0 then (x, 1)
  else if x.isNaN || x.isInf then (nan, nan)
  else
    let a := abs x
    let octants := (a * eighthTurns).toUInt64
    let odd := octants % 2 == 1
    let j := if odd then octants + 1 else octants
    let y := if odd then octants.toFloat32 + 1 else octants.toFloat32
    let z := ((a - y * eighthTurn.1) - y * eighthTurn.2.1) - y * eighthTurn.2.2
    let octant := j % 8
    let far := 3 < octant
    let quarter := if far then octant - 4 else octant
    let sineNegative := signed x != far
    let cosineNegative := far != (1 < quarter)
    let zz := z * z
    let cosine := reducedCosine zz
    let sine := reducedSine z zz
    let swapped := quarter == 1 || quarter == 2
    let s := if swapped then cosine else sine
    let c := if swapped then sine else cosine
    (if sineNegative then -s else s, if cosineNegative then -c else c)

/-- Cosine. -/
def cos (x : Float32) : Float32 := (sincos x).2

/-- The Hermite step from `low` to `high`. -/
def smoothStep (low high x : Float32) : Float32 :=
  let t := clamp ((x - low) / (high - low)) 0 1
  t * t * (3 - 2 * t)

/-- The weighted mean `x * (1 - a) + y * a`. -/
@[inline] def interpolate (x y a : Float32) : Float32 := x * (1 - a) + y * a

end FieldGraph.Single
