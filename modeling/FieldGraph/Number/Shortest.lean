import FieldGraph.Number.Binary

/-!
# Shortest decimals

The decimal written for a binary value has the fewest digits that round back to the value,
and among those it is the nearest one; an exact tie goes to the even last digit. Grids of
powers of ten are tried from coarse to fine. On each grid only the two neighbours of the
value can be nearest, so two candidates decide whether the grid holds a decimal inside the
rounding interval.
-/

namespace FieldGraph

/-- The nonnegative decimal `digits * 10 ^ exponent`. -/
structure Decimal where
  /-- All written digits as one natural, without trailing zeros unless it is zero. -/
  digits : Nat
  /-- Power of ten of the last digit. -/
  exponent : Int
  deriving DecidableEq, Repr

namespace Decimal

/-- Decimal digits of a natural, most significant first. -/
def digitChars (n : Nat) : List Char := Nat.toDigits 10 n

/-- How many digits a natural is written with. -/
def digitCount (n : Nat) : Nat := (digitChars n).length

/-- The least power of ten exceeding the positive quotient `num / den`. -/
def magnitude (num den : Nat) : Int :=
  if den ≤ num then digitCount (num / den)
  else -((digitCount ((den - 1) / num) - 1 : Nat) : Int)

/-- Both sides of the comparison of `n * 10 ^ i` with `m * 2 ^ q`, cleared of denominators. -/
def crossed (n : Nat) (i : Int) (m : Nat) (q : Int) : Nat × Nat :=
  (n * Nat.pow 10 i.toNat * Nat.pow 2 (-q).toNat, m * Nat.pow 2 q.toNat * Nat.pow 10 (-i).toNat)

/-- The open or closed interval of numbers that round to a binary value. Ends are multiples of
a quarter of the last place, since below a power of two the spacing halves. -/
structure Interval where
  /-- Lower end, in units of `2 ^ exponent`. -/
  low : Nat
  /-- The value itself, in the same units. -/
  centre : Nat
  /-- Upper end, in the same units. -/
  high : Nat
  /-- Exponent of the unit. -/
  exponent : Int
  /-- Whether the ends round to the value too. -/
  closed : Bool
  deriving DecidableEq, Repr

/-- The rounding interval of a positive value of a format. -/
def Interval.of (f : Binary.Format) (significand : Nat) (exponent : Int) : Interval where
  low := if significand = f.hidden ∧ f.minExponent < exponent
    then 4 * significand - 1 else 4 * significand - 2
  centre := 4 * significand
  high := 4 * significand + 2
  exponent := exponent - 2
  closed := significand % 2 == 0

/-- Whether `n * 10 ^ i` rounds to the value the interval belongs to. -/
def Interval.holds (v : Interval) (n : Nat) (i : Int) : Bool :=
  let (l, low) := crossed n i v.low v.exponent
  let (h, high) := crossed n i v.high v.exponent
  if v.closed then low ≤ l && h ≤ high else low < l && h < high

/-- The decimal of grid `10 ^ i` to write, if the grid meets the interval. -/
def Interval.candidate (v : Interval) (i : Int) : Option Nat :=
  let (unit, value) := crossed 1 i v.centre v.exponent
  let below := value / unit
  let rest := 2 * (value % unit)
  match v.holds below i, v.holds (below + 1) i with
  | true, true =>
      if rest < unit then some below
      else if unit < rest then some (below + 1)
      else some (below + below % 2)
  | true, false => some below
  | false, true => some (below + 1)
  | false, false => none

/-- Try grids from `10 ^ i` downwards. -/
def Interval.search (v : Interval) : Nat → Int → Decimal
  | 0, i => ⟨v.centre, i⟩
  | tries + 1, i =>
      match v.candidate i with
      | some n => ⟨n, i⟩
      | none => v.search tries (i - 1)

/-- Drop trailing zeros, which only arise when rounding up fills a digit. -/
def trim (digits : Nat) (exponent : Int) : Nat → Decimal
  | 0 => ⟨digits, exponent⟩
  | tries + 1 =>
      if digits ≠ 0 ∧ digits % 10 = 0 then trim (digits / 10) (exponent + 1) tries
      else ⟨digits, exponent⟩

/-- Number of grids that are tried for a format. Every three bits of precision take less than
one digit. -/
def grids (f : Binary.Format) : Nat := f.fractionBits / 3 + 5

/-- The decimal written for a positive value of a format. -/
def shortest (f : Binary.Format) (significand : Nat) (exponent : Int) : Decimal :=
  let v := Interval.of f significand exponent
  let (num, den) := Binary.fraction significand exponent
  let found := v.search (grids f) (magnitude num den)
  trim found.digits found.exponent (grids f)

end Decimal

end FieldGraph
