import FieldGraph.Config.Number.Basic
import FieldGraph.Number.Notation

/-!
# Written numbers of the scene language

A numeral is a run of decimal digits with at most one point, scaled by a power of ten or of two.
The power of five in a decimal scale is multiplied out with some guard bits before the numeral is
rounded once more, so a numeral far from one may miss the nearest number by its last bit.

The text of a number is the shortest decimal between the middles to its neighbours, taking them
equally far apart on both sides. Digits of the lower middle, the number and the upper middle are
compared place by place, until cutting the number there stays between the middles.
-/

namespace FieldGraph.Config.Number

/-! ## Reading -/

/-- Bits that a power of five has more than the numeral that it scales. -/
def guardBits : Nat := 64

/-- The largest power of five that is multiplied out exactly. -/
def exactFives : Nat := 27

/-- Multiply `result` by `base ^ n`, squaring the base for each binary digit of the exponent. -/
def multiplyPower (result base : Number) (n : Nat) : Number :=
  if h : n = 0 then result
  else
    let next := if n % 2 = 1 then product result.precision result base else result
    multiplyPower next (product base.precision base base) (n / 2)
termination_by n
decreasing_by omega

/-- A power of five, rounded while it is multiplied out. -/
def powerOfFive (precision n : Nat) : Number :=
  if n ≤ exactFives then round precision false (Nat.pow 5 n) 1 0
  else multiplyPower (round precision false (Nat.pow 5 exactFives) 1 0)
    (round (precision + guardBits) false 5 1 0) (n - exactFives)

/-- The number `± digits * 2 ^ two * 5 ^ five`, unless the leading bit of the digits leaves the
range by the power of two alone. -/
def ofPowers? (negative : Bool) (digits : Nat) (two five : Int) : Option Number :=
  let place := two + digits.log2 + 1
  if digits = 0 then some (round numeralPrecision negative 0 1 0)
  else if place < -placeBound ∨ placeBound ≤ place then none
  else
    let fives := powerOfFive (numeralPrecision + guardBits) five.natAbs
    let whole : Number := ⟨.finite negative digits two, numeralPrecision⟩
    if five < 0 then quotient? numeralPrecision whole fives
    else some (product numeralPrecision whole fives)

/-- The natural that decimal digits denote. -/
def digitsValue (digits : List Char) : Nat :=
  digits.foldl (fun n c => 10 * n + (c.toNat - '0'.toNat)) 0

/-- A sign at the start of a text, and the rest. -/
def splitSign : List Char → Bool × List Char
  | '-' :: rest => (true, rest)
  | '+' :: rest => (false, rest)
  | text => (false, text)

/-- The scale at the end of a numeral. -/
inductive Scale where
  /-- A power of ten. -/
  | decimal (exponent : Int)
  /-- A power of two. -/
  | binary (exponent : Int)
  deriving DecidableEq, Repr

/-- Read a signed exponent that a word of 64 bits holds. -/
def exponentOf? (text : List Char) : Option Int :=
  let (negative, digits) := splitSign text
  if digits.isEmpty || !digits.all Char.isDigit then none
  else
    let size : Int := digitsValue digits
    let exponent := if negative then -size else size
    if -0x8000000000000000 ≤ exponent ∧ exponent < 0x8000000000000000 then some exponent
    else none

/-- Read the scale of a numeral; there may be none. -/
def scaleOf? : List Char → Option Scale
  | [] => some (.decimal 0)
  | mark :: rest =>
      if mark == 'e' || mark == 'E' then (exponentOf? rest).map .decimal
      else if mark == 'p' || mark == 'P' then (exponentOf? rest).map .binary
      else none

/-- Read a numeral: digits with at most one point, then a scale. Infinity has a name. -/
def read? (text : List Char) : Option Number :=
  let (negative, body) := splitSign text
  if body = ['I', 'n', 'f'] ∨ body = ['i', 'n', 'f'] then
    some ⟨.infinite negative, numeralPrecision⟩
  else
    let whole := body.takeWhile Char.isDigit
    let afterWhole := body.drop whole.length
    let (part, rest) := match afterWhole with
      | '.' :: rest => (rest.takeWhile Char.isDigit, rest.dropWhile Char.isDigit)
      | _ => ([], afterWhole)
    if whole.isEmpty && part.isEmpty then none
    else
      let digits := digitsValue (whole ++ part)
      let places : Int := part.length
      match scaleOf? rest with
      | some (.decimal exponent) =>
          ofPowers? negative digits (exponent - places) (exponent - places)
      | some (.binary exponent) => ofPowers? negative digits (exponent - places) (-places)
      | none => none

/-! ## Writing -/

/-- The first digits of a positive decimal expansion. -/
structure Expansion where
  /-- As many digits as were asked for, the first of them not zero. -/
  digits : List Char
  /-- How many digits stand before the point. -/
  point : Int
  /-- Whether digits other than zero follow. -/
  more : Bool

/-- Ten to a power, as a quotient. -/
def powerOfTen (i : Int) : Nat × Nat := (Nat.pow 10 i.toNat, Nat.pow 10 (-i).toNat)

/-- Whether a positive quotient is at least a power of ten. -/
def reaches (num den : Nat) (i : Int) : Bool :=
  let (up, down) := powerOfTen i
  decide (den * up ≤ num * down)

/-- How many digits of a positive quotient stand before the point; negative if zeros follow it.
The place of the leading bit times the logarithm of two tells it up to one. -/
def pointOf (num den : Nat) : Int :=
  let guess := Binary.leadingExponent num den * 30102999566398119521 / 100000000000000000000
  if reaches num den (guess + 1) then guess + 2
  else if reaches num den guess then guess + 1
  else guess

/-- The first `count` digits of the positive quotient `num / den`. -/
def expand (count num den : Nat) : Expansion :=
  let point := pointOf num den
  let (scale, unscale) := powerOfTen (count - point)
  let top := num * scale
  let bottom := den * unscale
  ⟨Decimal.digitChars (top / bottom), point, top % bottom != 0⟩

/-- Drop zeros at the end. -/
def trimZeros (digits : List Char) : List Char :=
  (digits.reverse.dropWhile (· == '0')).reverse

/-- How many digits an expansion has, if it ends within those known. -/
def Expansion.length? (x : Expansion) : Option Nat :=
  if x.more then none else some (trimZeros x.digits).length

/-- How the digits after a place are taken away. -/
inductive Cut where
  /-- Toward zero. -/
  | down
  /-- Away from zero. -/
  | up
  /-- To the nearer side, a half to the even digit. -/
  | near
  deriving DecidableEq, Repr

/-- The first place at which cutting a number stays between two bounds, counted in digits, and
how to cut there. The digits of the bounds run along with those of the number. -/
def cutAt? (closed : Bool) (lowLength highLength : Option Nat) :
    Nat → List Char → List Char → List Char → Option (Nat × Cut)
  | taken, l :: low, c :: digits, h :: high =>
      let count := taken + 1
      let down := l != c || (closed && lowLength == some count)
      let beyond := match highLength with
        | some length => decide (count < length)
        | none => true
      let up := c != h && (closed || decide (c.toNat + 1 < h.toNat) || beyond)
      if down && up then some (count, .near)
      else if down then some (count, .down)
      else if up then some (count, .up)
      else cutAt? closed lowLength highLength count low digits high
  | _, _, _, _ => none

/-- Whether the digits after a place are at least a half of it, where an exact half counts only
after an odd digit. -/
def roundsUp (kept : List Char) : List Char → Bool
  | [] => false
  | ['5'] => match kept.getLast? with
      | some c => c.toNat % 2 == 1
      | none => false
  | c :: _ => decide ('5'.toNat ≤ c.toNat)

/-- The decimal of digits and the place of the point, without zeros at the end. -/
def decimalOf (digits : List Char) (point : Int) : Decimal :=
  let kept := trimZeros digits
  ⟨digitsValue kept, point - kept.length⟩

/-- Cut digits after a place. -/
def cutDigits (digits : List Char) (point : Int) (count : Nat) (cut : Cut) : Decimal :=
  let kept := digits.take count
  let rest := digits.drop count
  let up := match cut with
    | .down => false
    | .up => !rest.isEmpty
    | .near => roundsUp kept rest
  if up then
    let raised := Decimal.digitChars (digitsValue kept + 1)
    decimalOf raised (point + (raised.length - kept.length : Nat))
  else decimalOf kept point

/-- The decimal written for the positive value `significand * 2 ^ exponent`, of which the
significand has all bits of its precision. -/
def shortest (precision significand : Nat) (exponent : Int) : Decimal :=
  let count := precision / 3 + 5
  let expansion := fun twice =>
    let (num, den) := Binary.fraction twice (exponent - 1)
    expand count num den
  let low := expansion (2 * significand - 1)
  let value := expansion (2 * significand)
  let high := expansion (2 * significand + 1)
  let digits := trimZeros value.digits
  match cutAt? (significand % 2 == 0) low.length? high.length? 0 low.digits digits high.digits with
  | some (place, cut) => cutDigits digits value.point place cut
  | none => decimalOf digits value.point

/-- What is written for a number: its sign and its digits, if it is finite. -/
def written? (n : Number) : Option (Bool × Decimal) :=
  match n.value with
  | .finite negative significand exponent =>
      some (negative, if significand = 0 then ⟨0, 0⟩ else shortest n.precision significand exponent)
  | _ => none

/-- How a number is written as text. -/
def text (n : Number) : String :=
  match n.value, n.written? with
  | _, some (negative, decimal) =>
      let digits := String.ofList (Notation.positional.decimal decimal)
      if negative then "-" ++ digits else digits
  | .infinite true, _ => "-Inf"
  | _, _ => "+Inf"

/-- Whether two numbers are the same: they are written alike. Zeros of either sign are. -/
def same (a b : Number) : Bool :=
  match a.value, b.value with
  | .finite s m _, .finite t n _ =>
      if m = 0 ∨ n = 0 then m == n
      else s == t && a.written? == b.written?
  | left, right => left == right

end FieldGraph.Config.Number
