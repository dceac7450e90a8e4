import FieldGraph.Config.Problem
import FieldGraph.Config.Token

/-!
# Reading tokens

A cursor stands before a token and keeps the problems found so far. After a problem the reading
goes on at a later token, and from then on problems that may follow from the first are not
reported. The last token marks the end of the file and is never passed.
-/

namespace FieldGraph.Config

/-- Pairs of tokens that enclose something. -/
inductive Bracket where
  | brace
  | square
  | round
  | quote
  | block
  | hole
  /-- The file, which nothing opens. -/
  | file
  deriving DecidableEq, Repr

/-- The bracket that a token opens. -/
def TokenKind.opens? : TokenKind → Option Bracket
  | .symbol "\x7b" => some .brace
  | .symbol "[" => some .square
  | .symbol "(" => some .round
  | .openQuote => some .quote
  | .openBlock _ => some .block
  | .openHole _ | .openDirective _ => some .hole
  | _ => none

/-- The bracket that a token closes. -/
def TokenKind.closes? : TokenKind → Option Bracket
  | .symbol "\x7d" => some .brace
  | .symbol "]" => some .square
  | .symbol ")" => some .round
  | .closeQuote => some .quote
  | .closeBlock => some .block
  | .closeHole _ => some .hole
  | .finish => some .file
  | _ => none

/-- A place between tokens, and what was found before it. -/
structure Cursor where
  rest : List Token
  /-- The place of the token before. -/
  last : Span
  /-- Whether a problem was skipped over. -/
  recovering : Bool := false
  problems : List Diagnostic := []
  deriving Repr

/-- A step of reading. -/
abbrev Reading := StateM Cursor

namespace Token

/-- Whether a token is some symbol. -/
def isSymbol (t : Token) (s : String) : Bool := t.kind == .symbol s

/-- Whether a token is some word. -/
def isWord (t : Token) (word : String) : Bool := t.kind == .word && t.text == word.toList

/-- The characters of a token. -/
def word (t : Token) : String := String.ofList t.text

/-- The end of an empty file. -/
def nothing : Token := ⟨.finish, [], {}⟩

/-- A comment up to the end of its line stands for the line end. -/
def endsLine (t : Token) : Bool :=
  t.kind == .newline || (t.kind == .comment && t.text.getLast? == some '\n')

/-- The next token that counts and the tokens after it. Line ends count only if asked for. -/
def next (newlines : Bool) : List Token → Token × List Token
  | [] => (nothing, [])
  | [t] => (t, [t])
  | t :: rest =>
      if newlines && t.endsLine then (⟨.newline, t.text, t.span⟩, rest)
      else if t.kind == .newline || t.kind == .comment then next newlines rest
      else (t, rest)

/-- The next token that is a symbol, with the tokens after it. -/
def opening (symbol : String) : List Token → Token × List Token
  | [] => (nothing, [])
  | [t] => (t, [t])
  | t :: rest => if t.isSymbol symbol then (t, rest) else opening symbol rest

/-- The token that closes a bracket, with the tokens after it, from inside of the bracket. -/
def closing (b : Bracket) : (depth : Nat) → List Token → Token × List Token
  | _, [] => (nothing, [])
  | _, [t] => (t, [t])
  | depth, t :: rest =>
      if t.kind.opens? == some b then closing b (depth + 1) rest
      else if t.kind.closes? == some b then
        match depth with
        | 0 => (t, rest)
        | depth + 1 => closing b depth rest
      else closing b depth rest

/-- The line end outside of the brackets that are open, with the tokens after it. A closing token
also closes what was opened inside of its bracket. -/
def lineEnding : (opened : List Bracket) → List Token → Token × List Token
  | _, [] => (nothing, [])
  | _, [t] => (t, [t])
  | opened, t :: rest =>
      if t.endsLine && opened.isEmpty then (t, rest)
      else match t.kind.opens?, t.kind.closes? with
        | some b, _ => lineEnding (b :: opened) rest
        | none, some b => lineEnding ((opened.dropWhile (· ≠ b)).drop 1) rest
        | none, none => lineEnding opened rest

end Token

namespace Reading

/-- The next token, which stays where it is. -/
def peek (newlines : Bool) : Reading Token := return (Token.next newlines (← get).rest).1

/-- Pass the next token. -/
def read (newlines : Bool) : Reading Token := modifyGet fun c =>
  let (t, rest) := Token.next newlines c.rest
  (t, { c with rest := rest, last := t.span })

/-- Report a problem. -/
def report (problem : Problem) (span : Span) : Reading Unit :=
  modify fun c => { c with problems := c.problems ++ [⟨problem, span⟩] }

/-- Report a problem unless it may follow from an earlier one. -/
def reportFirst (problem : Problem) (span : Span) : Reading Unit := do
  unless (← get).recovering do report problem span

/-- Say that what follows may be affected by a problem. -/
def beginRecovery : Reading Unit := modify fun c => { c with recovering := true }

/-- Skip what is left inside of a bracket and the bracket's end. -/
def recover (b : Bracket) : Reading Token := modifyGet fun c =>
  let (t, rest) := Token.closing b 0 c.rest
  (t, { c with rest := rest, last := t.span, recovering := true })

/-- Skip the rest of an argument or block header. -/
def recoverLine : Reading Unit := modify fun c =>
  let (t, rest) := Token.lineEnding [] c.rest
  { c with rest := rest, last := t.span, recovering := true }

/-- Skip what is up to the next opening parenthesis and inside of it. -/
def recoverCall : Reading Unit := do
  modify fun c =>
    let (_, rest) := Token.opening "(" c.rest
    { c with rest }
  let _ ← recover .round

/-- The number of problems so far. -/
def mark : Reading Nat := return (← get).problems.length

/-- Whether problems were found since a mark. -/
def failedSince (mark : Nat) : Reading Bool := return decide (mark < (← get).problems.length)

/-- Whether problems were found since a mark and the reading was thrown off by one. -/
def lostSince (mark : Nat) : Reading Bool :=
  return (← get).recovering && decide (mark < (← get).problems.length)

/-- The place of the token before. -/
def lastSpan : Reading Span := return (← get).last

end Reading

end FieldGraph.Config
