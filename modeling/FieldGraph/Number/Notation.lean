import FieldGraph.Number.Shortest

/-!
# Written forms of floats

Every form writes the shortest digits; the forms differ in where the point stands and when an
exponent is used. Messages switch to an exponent outside `10 ^ -4 .. 10 ^ 6` and write at least
two exponent digits. Shader literals never use an exponent and always hold a point with a digit
on both sides, so that they are floating point literals in every shading language.
-/

namespace FieldGraph

/-- How the digits of a float are laid out. -/
structure Notation where
  /-- Least decimal exponent still written with a plain point. -/
  leastPlain : Option Int
  /-- Least decimal exponent from which an exponent is written again. -/
  leastLarge : Option Int
  /-- Least number of exponent digits. -/
  exponentDigits : Nat
  deriving DecidableEq, Repr

namespace Notation

/-- Floats inside messages and text log records. -/
def message : Notation := ⟨some (-4), some 6, 2⟩

/-- Floats inside structured log records. -/
def record : Notation := ⟨some (-6), some 21, 1⟩

/-- Floats inside shader sources: positional whatever the size. -/
def positional : Notation := ⟨none, none, 0⟩

/-- A run of zeros. -/
def zeros (n : Nat) : List Char := List.replicate n '0'

/-- Digits with a point before the digit of weight `10 ^ -1`, where the first digit has weight
`10 ^ (point - 1)`. No point is written when no digit follows it. -/
def pointed (digits : List Char) (point : Int) : List Char :=
  if point ≤ 0 then '0' :: '.' :: (zeros (-point).toNat ++ digits)
  else if (digits.length : Int) ≤ point then
    digits ++ zeros (point.toNat - digits.length)
  else digits.take point.toNat ++ '.' :: digits.drop point.toNat

/-- Digits with one before the point, then the exponent with its sign. -/
def scientific (digits : List Char) (exponent : Int) (width : Nat) : List Char :=
  let mantissa := match digits with
    | [] => []
    | [d] => [d]
    | d :: rest => d :: '.' :: rest
  let magnitude := Decimal.digitChars exponent.natAbs
  mantissa ++ 'e' :: (if exponent < 0 then '-' else '+') ::
    (zeros (width - magnitude.length) ++ magnitude)

/-- Lay out a decimal. -/
def decimal (n : Notation) (d : Decimal) : List Char :=
  let digits := Decimal.digitChars d.digits
  let exponent := d.exponent + digits.length - 1
  let small := match n.leastPlain with
    | some low => decide (exponent < low)
    | none => false
  let large := match n.leastLarge with
    | some high => decide (high ≤ exponent)
    | none => false
  if small || large then scientific digits exponent n.exponentDigits
  else pointed digits (exponent + 1)

/-- The written form of a value of a format. -/
def chars (n : Notation) (f : Binary.Format) : Binary → List Char
  | .nan => ['N', 'a', 'N']
  | .infinite true => ['-', 'I', 'n', 'f']
  | .infinite false => ['+', 'I', 'n', 'f']
  | .finite negative significand exponent =>
      let magnitude :=
        if significand = 0 then ['0'] else n.decimal (Decimal.shortest f significand exponent)
      if negative then '-' :: magnitude else magnitude

end Notation

/-- A single precision float as messages show it. -/
def messageFloat (x : Float32) : String :=
  String.ofList (Notation.message.chars .single (Binary.ofSingle x))

/-- The bytes of written digits with `point` for the point. A point and a zero are added when the
digits end before the point. -/
def Notation.repointed (point : UInt8) (written : List Char) : List UInt8 :=
  if '.' ∈ written then written.map fun c => if c = '.' then point else c.toUInt8
  else written.map Char.toUInt8 ++ [point, '0'.toUInt8]

/-- The bytes of a single precision float as a shader literal, with `minus` for the sign and
`point` for the point. -/
def literalBytes (minus point : UInt8) (x : Float32) : List UInt8 :=
  let written := Notation.positional.chars .single (Binary.ofSingle x)
  (Notation.repointed point written).modifyHead fun b => if b = '-'.toUInt8 then minus else b

/-- A shader literal appended to bytes, which are left as they are. -/
def appendLiteral (bytes : List UInt8) (minus point : UInt8) (x : Float32) : List UInt8 :=
  bytes ++ literalBytes minus point x

/-- Literals appended one after the other, with a separator between them. A zero separates
nothing. -/
def appendLiterals (bytes : List UInt8) (separator minus point : UInt8) :
    List Float32 → List UInt8
  | [] => bytes
  | [x] => appendLiteral bytes minus point x
  | x :: rest =>
      let next := appendLiteral bytes minus point x
      let joined := if separator = 0 then next else next ++ [separator]
      appendLiterals joined separator minus point rest

/-- The literal of ordinary shader sources, all of whose bytes are ASCII. -/
def literal (x : Float32) : String :=
  String.ofList ((appendLiteral [] '-'.toUInt8 '.'.toUInt8 x).map Char.ofUInt8)

end FieldGraph
