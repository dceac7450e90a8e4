import FieldGraph.Number.Binary

/-!
# Arithmetic shared by floats and exact numbers

Blends and colour conversions are written once over a class of numbers. Sampling reads them at
single precision, one rounding per operation; reasoning about their shape reads them at the
rationals, where no rounding happens.
-/

namespace FieldGraph

/-- The operations blends and colour conversions use. -/
class Scalar (α : Type) extends Add α, Sub α, Mul α, Div α, Neg α where
  /-- The number a natural denotes. -/
  natural : Nat → α
  /-- Strict comparison. -/
  less : α → α → Bool
  /-- Comparison that admits equality. -/
  atMost : α → α → Bool
  /-- Equality of numbers, under which both float zeros agree. -/
  same : α → α → Bool
  /-- The larger of two numbers. -/
  larger : α → α → α
  /-- The smaller of two numbers. -/
  smaller : α → α → α
  /-- Distance from zero. -/
  magnitude : α → α
  /-- The remainder of a truncated division, with the sign of the dividend. -/
  remainder : α → α → α

namespace Scalar

variable {α : Type} [Scalar α]

/-- The number zero. -/
@[inline] def zero : α := natural 0

/-- The number one. -/
@[inline] def one : α := natural 1

/-- One half. -/
@[inline] def half : α := natural 1 / natural 2

/-- Keep a number between two bounds; a float that compares with neither is kept. -/
@[inline] def clamp (v low high : α) : α :=
  if less v low then low else if less high v then high else v

/-- The weighted mean `x * (1 - a) + y * a`. -/
@[inline] def mix (x y a : α) : α := x * (one - a) + y * a

end Scalar

/-- Exact arithmetic. -/
instance : Scalar Rat where
  natural n := (n : Rat)
  less a b := decide (a < b)
  atMost a b := decide (a ≤ b)
  same a b := decide (a = b)
  larger a b := if a ≤ b then b else a
  smaller a b := if a ≤ b then a else b
  magnitude a := if a < 0 then -a else a
  remainder a b :=
    let quotient := a / b
    a - b * (quotient.num.tdiv quotient.den : Int)

namespace Single

/-- Not a number. -/
def nan : Float32 := Float32.ofBits 0x7fc00000

/-- The infinity above all numbers. -/
def infinity : Float32 := Float32.ofBits 0x7f800000

/-- Whether the sign bit is set, also for zeros. -/
@[inline] def signed (x : Float32) : Bool := x.toBits >= 0x80000000

/-- Clear the sign bit. -/
@[inline] def abs (x : Float32) : Float32 := Float32.ofBits (x.toBits &&& 0x7fffffff)

/-- The larger operand; not a number if either is none, and of two zeros the positive one. -/
def larger (x y : Float32) : Float32 :=
  if x.isNaN || y.isNaN then nan
  else if x == 0 && y == 0 then (if signed x then y else x)
  else if y < x then x else y

/-- The smaller operand; not a number if either is none, and of two zeros the negative one. -/
def smaller (x y : Float32) : Float32 :=
  if x.isNaN || y.isNaN then nan
  else if x == 0 && y == 0 then (if signed x then x else y)
  else if x < y then x else y

/-- The exact remainder with the sign of the dividend. It is a multiple of the finer of the two
last places and below the divisor, hence representable. -/
def remainder (x y : Float32) : Float32 :=
  match Binary.ofSingle x, Binary.ofSingle y with
  | .finite negative m q, .finite _ n r =>
      if n = 0 then nan
      else
        let least := min q r
        let rest := (m * Nat.pow 2 (q - least).toNat) % (n * Nat.pow 2 (r - least).toNat)
        (Binary.finite negative rest least).toSingle
  | .finite .., .infinite _ => x
  | _, _ => nan

end Single

/-- Single precision arithmetic, one rounding per operation. -/
instance : Scalar Float32 where
  natural n := Float32.ofNat n
  less a b := a < b
  atMost a b := a ≤ b
  same a b := a == b
  larger := Single.larger
  smaller := Single.smaller
  magnitude := Single.abs
  remainder := Single.remainder

end FieldGraph
