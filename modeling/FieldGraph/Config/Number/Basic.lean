import FieldGraph.Number.Binary

/-!
# Numbers of the scene language

A number is a binary floating point value with a precision of its own. Its significand has
exactly that many bits, and the place of its leading bit is a signed word of 32 bits: larger
results are infinite and smaller ones zero. Results are rounded to the larger precision of the
operands, except that products are first rounded to the precision of numerals and then keep
the bits that they need. Operations without a result say so.

Exponents are added and compared, never spelled out as powers of two, so that numbers far out
in the range cost no more than others.
-/

namespace FieldGraph.Config

/-- A number and the bits of its significand. -/
structure Number where
  value : Binary
  precision : Nat
  deriving DecidableEq, Repr

namespace Number

/-- Significand bits of a written number. -/
def numeralPrecision : Nat := 512

/-- A bound of the places that a leading bit may have. -/
def placeBound : Int := 0x80000000

/-- The number of a precision nearest to `± num / den * 2 ^ shift`. -/
def round (precision : Nat) (negative : Bool) (num den : Nat) (shift : Int) : Number :=
  if num = 0 then ⟨.finite negative 0 0, precision⟩
  else
    let (significand, exponent) := Binary.roundPositive precision none num den
    let place := exponent + shift + precision
    if placeBound ≤ place then ⟨.infinite negative, precision⟩
    else if place < -placeBound then ⟨.finite negative 0 0, precision⟩
    else ⟨.finite negative significand (exponent + shift), precision⟩

/-- The nearest number of another precision. -/
def withPrecision (precision : Nat) (n : Number) : Number :=
  match n.value with
  | .finite negative significand exponent => round precision negative significand 1 exponent
  | other => ⟨other, precision⟩

/-- The ratio of a circle's circumference to its diameter, in double precision. -/
def pi : Number := ⟨Binary.Format.double.decode 0x400921fb54442d18, 53⟩

/-- Significand bits of a number that counts something. -/
def countPrecision : Nat := 64

/-- A natural that counts something. -/
def ofNat (n : Nat) : Number := round countPrecision false n 1 0

/-- The number with the other sign. -/
def negate (n : Number) : Number :=
  match n.value with
  | .finite negative significand exponent =>
      { n with value := .finite (!negative) significand exponent }
  | .infinite negative => { n with value := .infinite (!negative) }
  | .nan => n

/-- A signed integer in units of a power of two no larger than its own. -/
def scaled (negative : Bool) (significand : Nat) (exponent unit : Int) : Int :=
  let size : Int := (significand * Nat.pow 2 (exponent - unit).toNat : Nat)
  if negative then -size else size

/-- Place of the leading bit of `significand * 2 ^ exponent`. -/
def leadingPlace (significand : Nat) (exponent : Int) : Int := significand.log2 + exponent

/-- Whether `m * 2 ^ e` is too small to change a value `n * 2 ^ f` of some precision that it is
added to: it does not reach an eighth of the last place. -/
def negligible (precision m : Nat) (e : Int) (n : Nat) (f : Int) : Bool :=
  m == 0 || (n != 0 && leadingPlace m e + precision + 3 < leadingPlace n f)

/-- Sum, unless opposing infinities are added. Numbers that cancel leave a positive zero. -/
def add? (a b : Number) : Option Number :=
  let precision := max a.precision b.precision
  match a.value, b.value with
  | .finite s m e, .finite t n f =>
      if m = 0 ∧ n = 0 then some ⟨.finite (s && t) 0 0, precision⟩
      else if negligible precision m e n f then some (round precision t n 1 f)
      else if negligible precision n f m e then some (round precision s m 1 e)
      else
        let unit := min e f
        let sum := scaled s m e unit + scaled t n f unit
        some (round precision (decide (sum < 0)) sum.natAbs 1 unit)
  | .infinite s, .infinite t => if s = t then some ⟨.infinite s, precision⟩ else none
  | .infinite s, _ | _, .infinite s => some ⟨.infinite s, precision⟩
  | _, _ => none

/-- The number of a precision nearest to the product of two numbers; zero times infinity is
zero here. -/
def product (precision : Nat) (a b : Number) : Number :=
  match a.value, b.value with
  | .finite s m e, .finite t n f => round precision (s != t) (m * n) 1 (e + f)
  | .finite s m _, .infinite t | .infinite t, .finite s m _ =>
      if m = 0 then ⟨.finite (s != t) 0 0, precision⟩ else ⟨.infinite (s != t), precision⟩
  | .infinite s, .infinite t => ⟨.infinite (s != t), precision⟩
  | _, _ => ⟨.nan, precision⟩

/-- Drop factors of two from a positive natural. -/
def oddPart (n : Nat) : Nat :=
  if h : 0 < n ∧ n % 2 = 0 then oddPart (n / 2) else n
termination_by n
decreasing_by omega

/-- The fewest significand bits that hold a number. -/
def leastPrecision (n : Number) : Nat :=
  match n.value with
  | .finite _ significand _ => if significand = 0 then 0 else (oddPart significand).log2 + 1
  | _ => 0

/-- Product, unless zero meets infinity. -/
def multiply? (a b : Number) : Option Number :=
  let precision := max a.precision b.precision
  match a.value, b.value with
  | .finite _ _ _, .finite _ _ _ =>
      let result := product numeralPrecision a b
      some (result.withPrecision (max precision result.leastPrecision))
  | .finite s m _, .infinite t | .infinite t, .finite s m _ =>
      if m = 0 then none else some ⟨.infinite (s != t), precision⟩
  | .infinite s, .infinite t => some ⟨.infinite (s != t), precision⟩
  | _, _ => none

/-- The number of a precision nearest to the quotient of two numbers, unless zero is divided by
zero or infinity by infinity. Other quotients by zero are infinite. -/
def quotient? (precision : Nat) (a b : Number) : Option Number :=
  match a.value, b.value with
  | .finite s m e, .finite t n f =>
      if n = 0 then if m = 0 then none else some ⟨.infinite (s != t), precision⟩
      else some (round precision (s != t) m n (e - f))
  | .finite s _ _, .infinite t => some ⟨.finite (s != t) 0 0, precision⟩
  | .infinite s, .finite t _ _ => some ⟨.infinite (s != t), precision⟩
  | _, _ => none

/-- Quotient in the larger precision. -/
def divide? (a b : Number) : Option Number := quotient? (max a.precision b.precision) a b

/-- The whole part of a finite number, toward zero, rounded to some precision. -/
def truncate (precision : Nat) (n : Number) : Number :=
  match n.value with
  | .finite negative significand exponent =>
      if 0 ≤ exponent then round precision negative significand 1 exponent
      else if leadingPlace significand exponent < 0 then round precision negative 0 1 0
      else round precision negative (significand / Nat.pow 2 (-exponent).toNat) 1 0
  | _ => n

/-- Remainder of the division toward zero, in the precision of the first number. By zero the
number itself is left; there is none with an infinity or when the quotient is one. -/
def remainder? (a b : Number) : Option Number :=
  match a.value, b.value with
  | .finite _ _ _, .finite _ n _ =>
      if n = 0 then some a
      else
        match divide? a b with
        | some ⟨.finite s m e, _⟩ =>
            let whole := truncate a.precision ⟨.finite s m e, 0⟩
            add? a (product a.precision b whole).negate
        | _ => none
  | _, _ => none

/-- Whether a positive finite value is less than another. -/
def lessMagnitude (m : Nat) (e : Int) (n : Nat) (f : Int) : Bool :=
  let left := leadingPlace m e
  let right := leadingPlace n f
  if left = right then
    let unit := min e f
    decide (scaled false m e unit < scaled false n f unit)
  else decide (left < right)

/-- Whether a number is less than another. -/
def less (a b : Number) : Bool :=
  match a.value, b.value with
  | .finite s m e, .finite t n f =>
      if m = 0 then n != 0 && !t
      else if n = 0 then s
      else if s != t then s
      else if s then lessMagnitude n f m e
      else lessMagnitude m e n f
  | .infinite s, .infinite t => s && !t
  | .infinite s, _ => s
  | _, .infinite t => !t
  | _, _ => false

/-- Whether a number has no fractional part. -/
def isWhole (n : Number) : Bool :=
  match n.value with
  | .finite _ significand exponent =>
      significand == 0 || 0 ≤ exponent || (0 ≤ leadingPlace significand exponent &&
        significand % Nat.pow 2 (-exponent).toNat == 0)
  | _ => false

/-- The natural below `bound` that a number is, if it is one. -/
def toNat? (bound : Nat) (n : Number) : Option Nat :=
  match n.value with
  | .finite negative significand exponent =>
      if significand = 0 then if 0 < bound then some 0 else none
      else if negative || !n.isWhole || (bound.log2 : Int) < leadingPlace significand exponent then
        none
      else
        let (num, den) := Binary.fraction significand exponent
        if num / den < bound then some (num / den) else none
  | _ => none

/-- The single precision float nearest to the double precision float nearest to a number,
unless the double precision range does not hold it. -/
def toSingle? (n : Number) : Option Float32 :=
  match n.value, n.value.toFormat .double with
  | .finite _ _ _, .infinite _ => none
  | _, double => some double.toSingle

end Number

end FieldGraph.Config
