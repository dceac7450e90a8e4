import FieldGraph.Kind.Draft

/-!
# Kinds given by a pattern

A pattern is a template written as text with holes for the sampled point, the inputs and the
parameters. It is filled in one pass from left to right: what replaces a hole is not searched
for holes again, and a hole that names nothing stays as it is written. Such a kind evaluates
to the sum of its inputs and parameters.

No catalog of the program holds such a kind. Patterns are there to make kinds with any
signature and any text, on which to try registration, naming and generation.
-/

namespace FieldGraph.Pattern

/-- A place of a pattern. -/
inductive Piece where
  | char (c : Char)
  | point
  | input (index : Nat)
  | param (index : Nat)
  deriving DecidableEq, Repr

/-- The natural a run of digits denotes. -/
def digitsValue (digits : List Char) : Nat :=
  digits.foldl (fun n c => 10 * n + (c.toNat - '0'.toNat)) 0

/-- The hole that starts a text, with its length. Numbered holes have at least one digit and no
superfluous zeros. -/
def hole? (inputs params : Nat) : List Char → Option (Piece × Nat)
  | '\x7b' :: 'p' :: '\x7d' :: _ => some (.point, 3)
  | '\x7b' :: letter :: rest =>
      let digits := rest.takeWhile Char.isDigit
      let index := digitsValue digits
      if Decimal.digitChars index = digits ∧ rest[digits.length]? = some '\x7d' then
        if letter = 'i' ∧ index < inputs then some (.input index, digits.length + 3)
        else if letter = 'k' ∧ index < params then some (.param index, digits.length + 3)
        else none
      else none
  | _ => none

/-- Split a pattern into pieces, skipping the rest of a hole already read. -/
def pieces (inputs params : Nat) : Nat → List Char → List Piece
  | _, [] => []
  | skip + 1, _ :: rest => pieces inputs params skip rest
  | 0, c :: rest =>
      match hole? inputs params (c :: rest) with
      | some (piece, length) => piece :: pieces inputs params (length - 1) rest
      | none => .char c :: pieces inputs params 0 rest

/-- Fill a pattern. -/
def template (pattern : String) : Template := fun p inputs params =>
  (pieces inputs.length params.length 0 pattern.toList).foldl (fun text piece =>
    match piece with
    | .char c => text.push c
    | .point => text ++ p
    | .input index => text ++ Input.exprAt inputs index p
    | .param index => text ++ params.getD index "") ""

/-- Add the values of the inputs from one on. -/
def sumFrom (p : Vec3) (total : Float32) (index : Nat) : List Bool → Probe Float32
  | [] => .done total
  | _ :: rest => .ask index p fun sample => sumFrom p (total + sample.s) (index + 1) rest

/-- The sum of all inputs and then all parameters, starting from zero. -/
def sum : Evaluator := fun p wired params =>
  (sumFrom p 0 0 wired).bind fun total => .done ⟨params.foldl (· + ·) total, p⟩

end FieldGraph.Pattern
