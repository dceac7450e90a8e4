import FieldGraph.Config.Span
import FieldGraph.Text.Blank
import FieldGraph.Text.Word

/-!
# Tokens of the scene language

The text is cut by a stack of modes. Outside of strings words, numbers and symbols are found;
inside a quoted string or a block string everything is literal up to an interpolation, which
opens an inner stretch of ordinary text that lasts to the matching brace. Nothing is lost: what
fits no rule becomes a token of its own, to be reported later.
-/

namespace FieldGraph.Config

/-- The role of a token. -/
inductive TokenKind where
  | word
  | number
  /-- An operator or a bracket, by its own text. -/
  | symbol (text : String)
  | newline
  | comment
  /-- The quote that opens a string. -/
  | openQuote
  /-- The quote that closes a string. -/
  | closeQuote
  /-- Literal characters between quotes, with escapes. -/
  | quoted
  /-- Line ends between quotes. -/
  | splitLine
  /-- The line that opens a block string; the flag asks to remove common indentation. -/
  | openBlock (flush : Bool)
  /-- The marker that closes a block string. -/
  | closeBlock
  /-- Literal characters of a block string. -/
  | blockText
  /-- The start of an interpolation; the flag asks to remove blanks before it. -/
  | openHole (trim : Bool)
  /-- The start of a template directive. -/
  | openDirective (trim : Bool)
  /-- The end of an interpolation or directive; the flag asks to remove blanks after it. -/
  | closeHole (trim : Bool)
  /-- A character that is not part of the language. -/
  | stray
  | finish
  deriving DecidableEq, Repr

/-- A token with its place. -/
structure Token where
  kind : TokenKind
  text : List Char
  span : Span
  deriving DecidableEq, Repr

namespace Token

/-- A stretch of text with rules of its own. -/
inductive Mode where
  /-- Ordinary text, with the number of open braces. -/
  | plain (braces : Nat)
  /-- A quoted string. -/
  | quoted
  /-- A block string with its closing marker, and whether a line starts here. -/
  | block (marker : List Char) (lineStart : Bool)
  deriving DecidableEq, Repr

/-- What stands at the start of a text: a token or nothing of interest, its length, and the
modes after it. -/
structure Piece where
  kind : Option TokenKind
  length : Nat
  modes : List Mode
  deriving DecidableEq, Repr

/-- Length of a line end at the start of a text. -/
def lineEnd : List Char → Nat
  | '\n' :: _ => 1
  | '\r' :: '\n' :: _ => 2
  | _ => 0

/-- Length of a comment that goes to the end of its line, which it includes. -/
def lineComment (text : List Char) : Nat :=
  let body := (text.takeWhile (· ≠ '\n')).length
  if body < text.length then body + 1 else body

/-- Length of a bracketed comment after its opening, if it is closed. -/
def blockComment : List Char → Option Nat
  | '*' :: '/' :: _ => some 2
  | _ :: rest => (blockComment rest).map (· + 1)
  | [] => none

/-- Length of the digits, points and exponents at the start of a text. -/
def numeralLength : List Char → Nat
  | [] => 0
  | [c] => if c.isDigit || c == '.' then 1 else 0
  | [c, d] =>
      if c.isDigit || c == '.' then 1 + numeralLength [d]
      else if (c == 'e' || c == 'E') && d.isDigit then 2
      else 0
  | c :: d :: e :: rest =>
      if c.isDigit || c == '.' then 1 + numeralLength (d :: e :: rest)
      else if c == 'e' || c == 'E' then
        if d.isDigit then 2 + numeralLength (e :: rest)
        else if (d == '+' || d == '-') && e.isDigit then 3 + numeralLength rest
        else 0
      else 0

/-- Length of the number at the start of a text; it does not end in a point. -/
def numberLength (text : List Char) : Nat :=
  let run := text.take (numeralLength text)
  run.length - (run.reverse.takeWhile (· == '.')).length

/-- Symbols of several characters, longer ones first. -/
def longSymbols : List String := ["...", "==", "!=", ">=", "<=", "&&", "||", "=>", "::"]

/-- Symbols of one character. -/
def shortSymbols : List Char := "[]().,*/%+-=<>!?:&|~^;`'".toList

/-- The opening line of a block string: its length, whether it is flush, and the marker. -/
def blockOpening? : List Char → Option (Nat × Bool × List Char)
  | '<' :: '<' :: rest =>
      let (flush, rest) := match rest with
        | '-' :: rest => (true, rest)
        | _ => (false, rest)
      match rest with
      | c :: tail =>
          if Text.startsWord c then
            let marker := c :: tail.takeWhile Text.continuesWord
            match lineEnd (rest.drop marker.length) with
            | 0 => none
            | ending => some (2 + (if flush then 1 else 0) + marker.length + ending, flush, marker)
          else none
      | [] => none
  | _ => none

/-- The piece of ordinary text at the start of a text. -/
def plainPiece (braces : Nat) (outer : List Mode) (text : List Char) : Piece :=
  let stay := Mode.plain braces :: outer
  let symbol (s : String) (modes : List Mode) : Piece := ⟨some (.symbol s), s.length, modes⟩
  match text with
  | [] => ⟨none, 0, stay⟩
  | '#' :: rest => ⟨some .comment, 1 + lineComment rest, stay⟩
  | '/' :: '/' :: rest => ⟨some .comment, 2 + lineComment rest, stay⟩
  | '"' :: _ => ⟨some .openQuote, 1, .quoted :: stay⟩
  | '\x7b' :: _ => symbol "\x7b" (.plain (braces + 1) :: outer)
  | '\x7d' :: _ =>
      if braces = 0 && !outer.isEmpty then ⟨some (.closeHole false), 1, outer⟩
      else symbol "\x7d" (.plain (braces - 1) :: outer)
  | '~' :: '\x7d' :: _ =>
      let inHole := braces = 0 && !outer.isEmpty
      ⟨some (.closeHole true), 2, if inHole then outer else .plain (braces - 1) :: outer⟩
  | c :: rest =>
      if c == ' ' || c == '\t' then
        ⟨none, (text.takeWhile fun d => d == ' ' || d == '\t').length, stay⟩
      else if 0 < lineEnd text then ⟨some .newline, lineEnd text, stay⟩
      else if c.isDigit then ⟨some .number, numberLength text, stay⟩
      else if Text.startsWord c then
        ⟨some .word, 1 + (rest.takeWhile Text.continuesWord).length, stay⟩
      else match blockOpening? text with
        | some (length, flush, marker) =>
            ⟨some (.openBlock flush), length, .block marker true :: stay⟩
        | none =>
            match if text.take 2 = ['/', '*'] then blockComment (text.drop 2) else none with
            | some length => ⟨some .comment, 2 + length, stay⟩
            | none =>
                match longSymbols.find? fun s => s.toList.isPrefixOf text with
                | some s => symbol s stay
                | none =>
                    if c ∈ shortSymbols then symbol (String.singleton c) stay
                    else ⟨some .stray, 1, stay⟩

/-- The interpolation or directive that starts a text, with its length. -/
def hole? : List Char → Option (TokenKind × Nat)
  | '$' :: '\x7b' :: '~' :: _ => some (.openHole true, 3)
  | '$' :: '\x7b' :: _ => some (.openHole false, 2)
  | '%' :: '\x7b' :: '~' :: _ => some (.openDirective true, 3)
  | '%' :: '\x7b' :: _ => some (.openDirective false, 2)
  | _ => none

/-- Whether a character could open a hole. -/
def isMark (c : Char) : Bool := c == '$' || c == '%'

/-- Length of the literal characters between quotes at the start of a text. -/
def quotedRun : List Char → Nat
  | [] => 0
  | [c] => if c ∈ ['$', '%', '"', '\\', '\n', '\r'] then 0 else 1
  | c :: d :: rest =>
      if c = '\\' then (if d = '\n' ∨ d = '\r' then 0 else 2 + quotedRun rest)
      else if c ∈ ['$', '%', '"', '\n', '\r'] then 0
      else 1 + quotedRun (d :: rest)

/-- Length of a literal mark between quotes that could have opened a hole: alone, or doubled before
a brace. At the end of the file it is not part of the string. -/
def markLength : List Char → Nat
  | '$' :: '$' :: '\x7b' :: _ | '%' :: '%' :: '\x7b' :: _ => 3
  | c :: _ :: _ => if isMark c then 1 else 0
  | _ => 0

/-- The piece of a quoted string at the start of a text. -/
def quotedPiece (outer : List Mode) (text : List Char) : Piece :=
  let stay := Mode.quoted :: outer
  match text with
  | '"' :: _ => ⟨some .closeQuote, 1, outer⟩
  | _ =>
      let ends := (text.takeWhile fun c => c == '\r' || c == '\n').length
      if 0 < ends then ⟨some .splitLine, ends, stay⟩
      else match hole? text with
      | some (kind, length) => ⟨some kind, length, .plain 0 :: stay⟩
      | none =>
          match max (markLength text) (quotedRun text) with
          | 0 => ⟨some .stray, 1, stay⟩
          | length => ⟨some .quoted, length, stay⟩

/-- The literal characters of a block string at the start of a text: how many there are, and
whether they end a line. A mark that opens no hole takes the next character along, even a line end,
and a mark right after such a pair opens none either. A pair is kept apart from a line end and from
characters beyond ASCII. -/
def blockRun : (pair : Bool) → List Char → Nat × Bool
  | _, [] => (0, false)
  | true, c :: rest =>
      if c = '\n' then (0, true)
      else if c = '\r' ∨ 128 ≤ c.toNat then (0, false)
      else
        let (length, ends) := blockRun (isMark c) rest
        (length + 1, ends)
  | false, '\n' :: _ => (1, true)
  | false, '\r' :: rest => if rest.head? = some '\n' then (2, true) else (0, false)
  | false, [c] => (if isMark c then 0 else 1, false)
  | false, c :: d :: rest =>
      if !isMark c then
        let (length, ends) := blockRun false (d :: rest)
        (length + 1, ends)
      else if d = '\x7b' then (0, false)
      else if 128 ≤ d.toNat then (1, false)
      else
        let (length, ends) := blockRun true rest
        (length + 2, ends)

/-- The piece of a block string at the start of a text. What cannot be part of it makes the rest of
the text unreadable. -/
def blockPiece (marker : List Char) (lineStart : Bool) (outer : List Mode) (text : List Char) :
    Piece :=
  let next (fresh : Bool) : List Mode := .block marker fresh :: outer
  match hole? text with
  | some (kind, length) => ⟨some kind, length, .plain 0 :: next false⟩
  | none =>
      let (length, ends) := blockRun false text
      let run := text.take length
      if lineStart && ends && Text.trimBlanks run == marker then
        let closing := (run.reverse.dropWhile fun c => c == '\n' || c == '\r').length
        ⟨some .closeBlock, closing, outer⟩
      else if length = 0 && !ends then ⟨some .stray, text.length, next false⟩
      else ⟨some .blockText, length, next ends⟩

/-- The piece at the start of a text. -/
def piece (modes : List Mode) (text : List Char) : Piece :=
  match modes with
  | [] => plainPiece 0 [] text
  | .plain braces :: outer => plainPiece braces outer text
  | .quoted :: outer => quotedPiece outer text
  | .block marker lineStart :: outer => blockPiece marker lineStart outer text

/-- Cut a text into tokens from a position on, skipping the rest of a piece already read. The
last token marks the end. -/
def listFrom (modes : List Mode) (place : Position) : (skip : Nat) → List Char → List Token
  | _, [] => [⟨.finish, [], ⟨place, place⟩⟩]
  | skip + 1, _ :: rest => listFrom modes place skip rest
  | 0, c :: rest =>
      let next := piece modes (c :: rest)
      let text := (c :: rest).take next.length
      let later := place.after text
      match next.kind with
      | some kind =>
          ⟨kind, text, ⟨place, later⟩⟩ :: listFrom next.modes later (next.length - 1) rest
      | none => listFrom next.modes later (next.length - 1) rest

/-- The tokens of a source. A byte order mark at the start is skipped. -/
def list (source : String) : List Token :=
  match source.toList with
  | '\ufeff' :: rest => listFrom [.plain 0] { byte := 3 } 0 rest
  | text => listFrom [.plain 0] {} 0 text

end Token

end FieldGraph.Config
