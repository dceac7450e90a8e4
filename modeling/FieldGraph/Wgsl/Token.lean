/-!
# Tokens of the WebGPU shading language

A module is read as words, numbers and symbols, each as long as possible; blanks and comments
separate them. A character that starts no token makes the whole text unreadable.
-/

namespace FieldGraph.Wgsl

/-- A token. -/
inductive Token where
  | word (name : String)
  | number (text : String)
  | symbol (text : String)
  deriving DecidableEq, Repr

namespace Token

/-- A character a word may start with. -/
def startsWord (c : Char) : Bool := c.isAlpha || c == '_' || 128 ≤ c.toNat

/-- A character a word may go on with. -/
def inWord (c : Char) : Bool := startsWord c || c.isDigit

/-- Symbols of several characters, longer ones first. -/
def longSymbols : List String :=
  ["<<=", ">>=", "->", "==", "!=", "<=", ">=", "&&", "||", "<<", ">>", "+=", "-=", "*=", "/=",
   "%=", "&=", "|=", "^=", "++", "--"]

/-- Symbols of one character. -/
def singles : List Char := "()[]\x7b\x7d<>,:;.@+-*/%=!&|^~".toList

/-- Length of a line comment. -/
def lineLength (chars : List Char) : Nat := (chars.takeWhile (· ≠ '\n')).length

/-- Length of a block comment after its opening, given how many are open. -/
def blockLength : Nat → List Char → Option Nat
  | _, [] => none
  | _, [_] => none
  | depth, '*' :: '/' :: rest =>
      match depth with
      | 0 | 1 => some 2
      | depth + 1 => (blockLength depth rest).map (· + 2)
  | depth, '/' :: '*' :: rest => (blockLength (depth + 1) rest).map (· + 2)
  | depth, _ :: rest => (blockLength depth rest).map (· + 1)

/-- Length of one character out of some at the start of a text, zero if there is none. -/
def oneOf (options : String) : List Char → Nat
  | c :: _ => if c ∈ options.toList then 1 else 0
  | [] => 0

/-- Length of an exponent after one of its marks, zero if there is none. -/
def exponentLength (marks : String) (chars : List Char) : Nat :=
  let mark := oneOf marks chars
  let sign := oneOf "+-" (chars.drop mark)
  let digits := ((chars.drop (mark + sign)).takeWhile Char.isDigit).length
  if mark = 0 ∨ digits = 0 then 0 else mark + sign + digits

/-- Length of a number after what introduces its base: digits, then a fraction, an exponent and the
letter of a type, as far as they are there. -/
def numeralLength (isDigit : Char → Bool) (marks halfMarks : String) (chars : List Char) : Nat :=
  let whole := (chars.takeWhile isDigit).length
  let rest := chars.drop whole
  let fraction :=
    if rest.head? = some '.' then 1 + ((rest.drop 1).takeWhile isDigit).length else 0
  let exponent := exponentLength marks (rest.drop fraction)
  let length := whole + fraction + exponent
  let types := if fraction + exponent = 0 then "iu" ++ halfMarks else "fh"
  length + oneOf types (chars.drop length)

/-- Whether a character is a hexadecimal digit. -/
def isHexDigit (c : Char) : Bool :=
  c.isDigit || ('a' ≤ c && c ≤ 'f') || ('A' ≤ c && c ≤ 'F')

/-- Length of a number at the start of a text. -/
def numberLength : List Char → Nat
  | '0' :: 'x' :: rest | '0' :: 'X' :: rest => 2 + numeralLength isHexDigit "pP" "" rest
  | chars => numeralLength Char.isDigit "eE" "fh" chars

/-- What a text starts with: its length and, unless it is skipped, a token. -/
def next? : List Char → Option (Option Token × Nat)
  | [] => none
  | '/' :: '/' :: rest => some (none, 2 + lineLength rest)
  | '/' :: '*' :: rest => (blockLength 1 rest).map fun length => (none, 2 + length)
  | c :: rest =>
      if c == ' ' || c == '\n' || c == '\t' || c == '\r' then some (none, 1)
      else if startsWord c then
        let tail := rest.takeWhile inWord
        some (some (.word (String.ofList (c :: tail))), 1 + tail.length)
      else if c.isDigit || (c == '.' && (rest.head?.map Char.isDigit).getD false) then
        let length := numberLength (c :: rest)
        some (some (.number (String.ofList ((c :: rest).take length))), length)
      else match longSymbols.find? fun s => s.toList.isPrefixOf (c :: rest) with
        | some s => some (some (.symbol s), s.length)
        | none =>
            if c ∈ singles then some (some (.symbol (String.singleton c)), 1) else none

/-- The tokens of a text, skipping the rest of a token already read. -/
def listFrom : (skip : Nat) → List Char → Option (List Token)
  | _, [] => some []
  | skip + 1, _ :: rest => listFrom skip rest
  | 0, c :: rest =>
      match next? (c :: rest) with
      | none => none
      | some (token, length) =>
          (listFrom (length - 1) rest).map fun later =>
            match token with
            | some token => token :: later
            | none => later

/-- The tokens of a text. -/
def list? (text : String) : Option (List Token) := listFrom 0 text.toList

end Token

end FieldGraph.Wgsl
