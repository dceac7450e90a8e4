import FieldGraph.Config.Problem

/-!
# Literal text

The characters between quotes stand for themselves, except that a backslash introduces a
character that is hard to write and that a doubled mark before a brace stands for the mark and
the brace. In block strings only the doubled mark is special.
-/

namespace FieldGraph.Config.Literal

/-- A character of literal text, or the problem with the piece in its place. -/
inductive Piece where
  | chars (text : List Char)
  | fault (problem : Problem) (text : List Char)
  deriving DecidableEq, Repr

/-- The value of a hexadecimal digit. -/
def hexValue? (c : Char) : Option Nat :=
  if c.isDigit then some (c.toNat - '0'.toNat)
  else if 'a' ≤ c ∧ c ≤ 'f' then some (c.toNat - 'a'.toNat + 10)
  else if 'A' ≤ c ∧ c ≤ 'F' then some (c.toNat - 'A'.toNat + 10)
  else none

/-- At most `width` hexadecimal digits at the start of a text. -/
def hexDigits (width : Nat) (text : List Char) : List Nat :=
  ((text.take width).takeWhile fun c => (hexValue? c).isSome).filterMap hexValue?

/-- A character by its code in `width` hexadecimal digits, after the backslash and its
selector, with the number of characters taken. -/
def coded (width : Nat) (short : Problem) (selector : Char) (text : List Char) : Piece × Nat :=
  let digits := hexDigits width text
  let written := '\\' :: selector :: text.take digits.length
  let code := digits.foldl (fun n d => 16 * n + d) 0
  let piece :=
    if digits.length < width then .fault short written
    else if code.isValidChar then .chars [Char.ofNat code]
    else .fault (.escapeCode code) written
  (piece, 2 + digits.length)

/-- Whether a character only stands for itself. -/
def isPlain (escapes : Bool) (c : Char) : Bool := c ≠ '$' && c ≠ '%' && !(escapes && c == '\\')

/-- The piece at the start of a text and the number of characters it takes. Characters that stand
for themselves form one piece up to the next that may not. -/
def piece (escapes : Bool) : List Char → Piece × Nat
  | [] => (.chars [], 1)
  | '$' :: '$' :: '\x7b' :: _ => (.chars ['$', '\x7b'], 3)
  | '%' :: '%' :: '\x7b' :: _ => (.chars ['%', '\x7b'], 3)
  | '$' :: _ => (.chars ['$'], 1)
  | '%' :: _ => (.chars ['%'], 1)
  | c :: rest =>
      if isPlain escapes c then
        let run := c :: rest.takeWhile (isPlain escapes)
        (.chars run, run.length)
      else match rest with
        | [] => (.fault .escapeCut ['\\'], 1)
        | 'n' :: _ => (.chars ['\n'], 2)
        | 'r' :: _ => (.chars ['\r'], 2)
        | 't' :: _ => (.chars ['\t'], 2)
        | '"' :: _ => (.chars ['"'], 2)
        | '\\' :: _ => (.chars ['\\'], 2)
        | 'u' :: text => coded 4 .escapeShort 'u' text
        | 'U' :: text => coded 8 .escapeLong 'U' text
        | c :: _ => (.fault (.escapeUnknown (String.singleton c)) [c], 2)

/-- What some characters stand for, from a place on. -/
def decodeFrom (escapes : Bool) (place : Position) :
    (skip : Nat) → List Char → List Char × List Diagnostic
  | _, [] => ([], [])
  | skip + 1, _ :: rest => decodeFrom escapes place skip rest
  | 0, c :: rest =>
      let (next, length) := piece escapes (c :: rest)
      let later := place.after ((c :: rest).take length)
      let (text, problems) := decodeFrom escapes later (length - 1) rest
      match next with
      | .chars chars => (chars ++ text, problems)
      | .fault problem written => (written ++ text, ⟨problem, ⟨place, later⟩⟩ :: problems)

/-- What the characters of a literal stand for, with the problems in them. -/
def decode (escapes : Bool) (place : Position) (text : List Char) : String × List Diagnostic :=
  let (chars, problems) := decodeFrom escapes place 0 text
  (String.ofList chars, problems)

end FieldGraph.Config.Literal
