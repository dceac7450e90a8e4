/-!
# Binary floating point values

A finite value is `± m * 2 ^ q` with a natural significand. A format fixes how many
significand bits are stored and which exponents exist, and rounding sends every
nonnegative quotient of naturals to the nearest value of the format, a half going to the
even significand. All of it is exact integer arithmetic: no machine operation is assumed.
-/

namespace FieldGraph

/-- What a binary floating point datum denotes. -/
inductive Binary where
  /-- The number `± significand * 2 ^ exponent`; a zero significand keeps its sign. -/
  | finite (negative : Bool) (significand : Nat) (exponent : Int)
  /-- An infinity of either sign. -/
  | infinite (negative : Bool)
  /-- Not a number; payloads are not distinguished. -/
  | nan
  deriving DecidableEq, Repr

/-- Field widths of an interchange format. -/
structure Binary.Format where
  /-- Stored fraction bits, one less than the precision. -/
  fractionBits : Nat
  /-- Bits of the biased exponent. -/
  exponentBits : Nat
  deriving DecidableEq, Repr

namespace Binary

/-- The 32 bit format. -/
def Format.single : Format := ⟨23, 8⟩

/-- The 64 bit format. -/
def Format.double : Format := ⟨52, 11⟩

namespace Format

/-- Offset of the stored exponent. -/
def bias (f : Format) : Nat := Nat.pow 2 (f.exponentBits - 1) - 1

/-- Exponent of the last place of the smallest values. -/
def minExponent (f : Format) : Int := 1 - (f.bias : Int) - f.fractionBits

/-- Exponent of the last place of the largest values. -/
def maxExponent (f : Format) : Int := (f.bias : Int) - f.fractionBits

/-- The least significand of full precision. -/
def hidden (f : Format) : Nat := Nat.pow 2 f.fractionBits

end Format

/-- Quotient of naturals to the nearest natural, a half to the even neighbour. -/
def roundDiv (num den : Nat) : Nat :=
  let quotient := num / den
  let twice := 2 * (num % den)
  if den < twice || (twice == den && quotient % 2 == 1) then quotient + 1 else quotient

/-- The nearest natural to `num / den / 2 ^ shift`. -/
def roundScaled (num den : Nat) (shift : Int) : Nat :=
  if 0 ≤ shift then roundDiv num (den * Nat.pow 2 shift.toNat)
  else roundDiv (num * Nat.pow 2 (-shift).toNat) den

/-- Exponent of the leading bit of the positive quotient `num / den`. -/
def leadingExponent (num den : Nat) : Int :=
  let guess : Int := (num.log2 : Int) - den.log2
  let reached :=
    if 0 ≤ guess then den * Nat.pow 2 guess.toNat ≤ num else den ≤ num * Nat.pow 2 (-guess).toNat
  if reached then guess else guess - 1

/-- A significand of `precision` bits for the positive quotient `num / den`, with an exponent
no less than `least`. Rounding up to the next power of two renormalises. -/
def roundPositive (precision : Nat) (least : Option Int) (num den : Nat) : Nat × Int :=
  let wanted := leadingExponent num den - (precision - 1 : Nat)
  let exponent := match least with
    | some low => max wanted low
    | none => wanted
  let significand := roundScaled num den exponent
  if significand = Nat.pow 2 precision then (Nat.pow 2 (precision - 1), exponent + 1)
  else (significand, exponent)

/-- Round the quotient `± num / den` to a format; quotients beyond its range become infinite. -/
def Format.round (f : Format) (negative : Bool) (num den : Nat) : Binary :=
  if num = 0 then finite negative 0 f.minExponent
  else
    let (significand, exponent) := roundPositive (f.fractionBits + 1) (some f.minExponent) num den
    if f.maxExponent < exponent then infinite negative
    else finite negative significand exponent

/-- The quotient of naturals a finite value denotes, without its sign. -/
def fraction (significand : Nat) (exponent : Int) : Nat × Nat :=
  if 0 ≤ exponent then (significand * Nat.pow 2 exponent.toNat, 1)
  else (significand, Nat.pow 2 (-exponent).toNat)

/-- Round a value of any precision to a format. Values far outside its range are told by their
exponents alone. -/
def toFormat (f : Format) : Binary → Binary
  | finite negative significand exponent =>
      if significand = 0 ∨ exponent + significand.log2 + 1 < f.minExponent then
        finite negative 0 f.minExponent
      else if (f.bias : Int) < exponent then infinite negative
      else
        let (num, den) := fraction significand exponent
        f.round negative num den
  | infinite negative => infinite negative
  | nan => nan

/-- Read the fields of a stored word. -/
def Format.decode (f : Format) (word : Nat) : Binary :=
  let stored := word % f.hidden
  let biased := word / f.hidden % Nat.pow 2 f.exponentBits
  let negative := word / (f.hidden * Nat.pow 2 f.exponentBits) % 2 == 1
  if biased = Nat.pow 2 f.exponentBits - 1 then
    if stored = 0 then infinite negative else nan
  else if biased = 0 then finite negative stored f.minExponent
  else finite negative (f.hidden + stored) (f.minExponent + (biased - 1 : Nat))

/-- Store a value of the format. A significand below full precision belongs to the smallest
exponent, which is stored as zero. -/
def Format.encode (f : Format) : Binary → Nat
  | finite negative significand exponent =>
      let sign := if negative then f.hidden * Nat.pow 2 f.exponentBits else 0
      if significand < f.hidden then sign + significand
      else sign + (exponent - f.minExponent + 1).toNat * f.hidden + (significand - f.hidden)
  | infinite negative =>
      let sign := if negative then f.hidden * Nat.pow 2 f.exponentBits else 0
      sign + (Nat.pow 2 f.exponentBits - 1) * f.hidden
  | nan => (Nat.pow 2 f.exponentBits - 1) * f.hidden + f.hidden / 2

/-- What a single precision float denotes. -/
def ofSingle (x : Float32) : Binary := Format.single.decode x.toBits.toNat

/-- The single precision float nearest to a value. -/
def toSingle (b : Binary) : Float32 :=
  Float32.ofBits (UInt32.ofNat (Format.single.encode (b.toFormat .single)))

end Binary

end FieldGraph
