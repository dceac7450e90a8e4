import FieldGraph.Number.Binary

/-!
# Values of flags

How truth values, integers and floats are written on the command line. Numbers may have a base
mark, and underscores between digits. What is well formed but does not fit is told apart from
what is malformed.
-/

namespace FieldGraph.Console

/-- Why a text is not a number. -/
inductive NumeralFault where
  | malformed
  | outOfRange
  deriving DecidableEq, Repr

/-- The text of a numeral fault. -/
def NumeralFault.message : NumeralFault → String
  | malformed => "parse error"
  | outOfRange => "value out of range"

/-- The truth value of a text. -/
def readBool? (s : String) : Option Bool :=
  if s ∈ ["1", "t", "T", "TRUE", "true", "True"] then some true
  else if s ∈ ["0", "f", "F", "FALSE", "false", "False"] then some false
  else none

/-- The value of a digit in bases up to sixteen. -/
def digitValue? (c : Char) : Option Nat :=
  if c.isDigit then some (c.toNat - '0'.toNat)
  else if 'a' ≤ c ∧ c ≤ 'f' then some (c.toNat - 'a'.toNat + 10)
  else if 'A' ≤ c ∧ c ≤ 'F' then some (c.toNat - 'A'.toNat + 10)
  else none

/-- Whether a character is a digit of a base. -/
def isDigitOf (base : Nat) (c : Char) : Bool :=
  match digitValue? c with
  | some d => decide (d < base)
  | none => false

/-- The natural that digits denote. -/
def digitsOf (base : Nat) (digits : List Char) : Nat :=
  digits.foldl (fun n c => base * n + (digitValue? c).getD 0) 0

/-- Remove a sign. -/
def dropSign : List Char → Bool × List Char
  | '-' :: rest => (true, rest)
  | '+' :: rest => (false, rest)
  | text => (false, text)

/-- The base a text is written in and the digits after its mark. A leading zero alone marks base
eight. -/
def splitBase : List Char → Nat × List Char
  | '0' :: m :: rest =>
      if m = 'x' ∨ m = 'X' then (16, rest)
      else if m = 'o' ∨ m = 'O' then (8, rest)
      else if m = 'b' ∨ m = 'B' then (2, rest)
      else (8, m :: rest)
  | text => (10, text)

/-- Whether underscores stand only between digits. `after` says whether a digit, or a base mark,
stands before the text, and `pending` whether an underscore does. -/
def underscoresFit (hex after pending : Bool) : List Char → Bool
  | [] => !pending
  | '_' :: rest => after && underscoresFit hex false true rest
  | c :: rest =>
      if c.isDigit || (hex && isDigitOf 16 c) then underscoresFit hex true false rest
      else !pending && underscoresFit hex false false rest

/-- Whether underscores are placed well in a number with an optional sign and base mark. -/
def underscoresOk (text : List Char) : Bool :=
  match (dropSign text).2 with
  | '0' :: m :: rest =>
      if m ∈ ['x', 'X'] then underscoresFit true true false rest
      else if m ∈ ['o', 'O', 'b', 'B'] then underscoresFit false true false rest
      else underscoresFit false false false ('0' :: m :: rest)
  | text => underscoresFit false false false text

/-- Read digits after those of `n`, passing over underscores. Too large a number is noticed
before anything that follows the digit that made it so. -/
def readDigits (base : Nat) : Nat → List Char → Except NumeralFault Nat
  | n, [] => .ok n
  | n, '_' :: rest => readDigits base n rest
  | n, c :: rest =>
      if !isDigitOf base c then .error .malformed
      else
        let n := base * n + (digitValue? c).getD 0
        if n < UInt64.size then readDigits base n rest else .error .outOfRange

/-- The least natural that has no counterpart among signed integers of 64 bits. -/
def integerLimit : Nat := 0x8000000000000000

/-- The integer of 64 bits that a text denotes. -/
def readInt (s : String) : Except NumeralFault Int := do
  let (negative, body) := dropSign s.toList
  let (base, marked) := splitBase body
  if marked.isEmpty then .error .malformed
  else
    let size ← readDigits base 0 marked
    if marked.contains '_' && !underscoresOk s.toList then .error .malformed
    else if negative then
      if size ≤ integerLimit then .ok (-(size : Int)) else .error .outOfRange
    else if size < integerLimit then .ok size
    else .error .outOfRange

/-- The infinity or other special value that a text names. -/
def specialFloat? (text : List Char) : Option Binary :=
  let lower := text.map Char.toLower
  let (negative, name) := dropSign lower
  if name = "inf".toList ∨ name = "infinity".toList then some (.infinite negative)
  else if lower = "nan".toList then some .nan
  else none

/-- The exponent part at the end of a float. -/
def floatExponent? (text : List Char) : Option Int :=
  let (negative, digits) := dropSign text
  match digits with
  | c :: _ =>
      let digits := digits.filter (· ≠ '_')
      if c.isDigit && digits.all Char.isDigit then
        let size : Int := min (digitsOf 10 digits) 100000
        some (if negative then -size else size)
      else none
  | [] => none

/-- The double precision float nearest to `± digits * radix ^ exponent`. -/
def doubleOf (negative : Bool) (digits : Nat) (radix : Nat) (exponent : Int) : Binary :=
  if digits = 0 then .finite negative 0 Binary.Format.double.minExponent
  else if 0 ≤ exponent then
    Binary.Format.double.round negative (digits * Nat.pow radix exponent.toNat) 1
  else Binary.Format.double.round negative digits (Nat.pow radix (-exponent).toNat)

/-- The double precision float that a text denotes: decimal, or with a base mark hexadecimal with
a binary exponent. -/
def readFloat (s : String) : Except NumeralFault Binary :=
  let text := s.toList
  match specialFloat? text with
  | some b => .ok b
  | none =>
      let (negative, body) := dropSign text
      let (hex, body) := match body with
        | '0' :: m :: c :: rest => if m ∈ ['x', 'X'] then (true, c :: rest) else (false, body)
        | _ => (false, body)
      let base := if hex then 16 else 10
      let isMantissa (c : Char) : Bool := isDigitOf base c || c == '_'
      let whole := body.takeWhile isMantissa
      let (part, rest) := match body.drop whole.length with
        | '.' :: rest => (rest.takeWhile isMantissa, rest.dropWhile isMantissa)
        | rest => ([], rest)
      let digits := (whole ++ part).filter (· ≠ '_')
      let exponent? : Option Int := match rest with
        | [] => if hex then none else some 0
        | mark :: rest =>
            if mark.toLower = (if hex then 'p' else 'e') then floatExponent? rest else none
      match exponent? with
      | none => .error .malformed
      | some exponent =>
          if digits.isEmpty || (text.contains '_' && !underscoresOk text) then .error .malformed
          else
            let places : Int := (part.filter (· ≠ '_')).length
            let double :=
              if hex then doubleOf negative (digitsOf 16 digits) 2 (exponent - 4 * places)
              else doubleOf negative (digitsOf 10 digits) 10 (exponent - places)
            match double with
            | .infinite _ => .error .outOfRange
            | double => .ok double

end FieldGraph.Console
