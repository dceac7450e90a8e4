import FieldGraph.Config.Expr.Basic
import FieldGraph.Config.Problem
import FieldGraph.Text.Blank
import FieldGraph.Text.Cluster

/-!
# Parts of strings

A string is read as a row of parts: literal text, interpolations and directives. Blanks next to a
part that asks for it are dropped, a block string may lose the indentation that all its lines
have, and then directives are matched: a condition with its end becomes a conditional, a loop a
joined comprehension.
-/

namespace FieldGraph.Config

/-- Directives that end a part of a string that another one began. -/
inductive Closing where
  | otherwise
  | endIf
  | endFor
  deriving DecidableEq, Repr

/-- The word of a closing directive. -/
def Closing.word : Closing → String
  | otherwise => "else"
  | endIf => "endif"
  | endFor => "endfor"

/-- The closing directive of a word. -/
def Closing.ofWord? (word : String) : Option Closing :=
  [otherwise, endIf, endFor].find? (·.word == word)

/-- Parts of a string while it is read. -/
inductive Part where
  | text (chars : String) (span : Span)
  | hole (inner : Expr) (span : Span)
  | condition (test : Expr) (span : Span)
  | loop (names : ItemNames) (collection : Expr) (span : Span)
  | close (closing : Closing) (span : Span)

namespace Part

/-! ## Blanks -/

/-- A part without the blanks at its end, if it is text. -/
def trimEnd : Part → Part
  | text chars span =>
      text (String.ofList (chars.toList.reverse.dropWhile Text.isBlank).reverse) span
  | part => part

/-- The last part without the blanks at its end. -/
def trimLast (parts : List Part) : List Part :=
  match parts.reverse with
  | [] => []
  | last :: before => (last.trimEnd :: before).reverse

/-- Whether a part ends its line. -/
def endsLine : Part → Bool
  | text chars _ => chars.toList.getLast? == some '\n'
  | _ => false

/-- Number of blanks that a line starts with; a blank line does not count. -/
def indentation? (chars : String) : Option Nat :=
  let blanks := chars.toList.takeWhile Text.isBlank
  if blanks.length = chars.length ∧ chars.toList.getLast? = some '\n' then none
  else some (Text.clusterCount blanks)

/-- The parts that start a line. -/
def lineStarts : (fresh : Bool) → List Part → List Part
  | _, [] => []
  | fresh, part :: rest =>
      if fresh then part :: lineStarts part.endsLine rest else lineStarts part.endsLine rest

/-- The indentation that all lines have. -/
def commonIndentation (parts : List Part) : Nat :=
  let sizes := (lineStarts true parts).filterMap fun part => match part with
    | text chars _ => indentation? chars
    | _ => some 0
  sizes.min?.getD 0

/-- A text without its first characters, as a reader sees them. -/
def dropStart (size : Nat) (chars : String) (span : Span) : Part :=
  let kept := Text.dropClusters size chars.toList
  let dropped := byteCount chars.toList - byteCount kept
  let start :=
    { span.start with column := span.start.column + size, byte := span.start.byte + dropped }
  text (String.ofList kept) { span with start }

/-- Remove indentation from the parts that start a line. -/
def outdent (size : Nat) : (fresh : Bool) → List Part → List Part
  | _, [] => []
  | fresh, part :: rest =>
      let kept := match part with
        | text chars span =>
            if fresh && (indentation? chars).isSome then dropStart size chars span else part
        | part => part
      kept :: outdent size part.endsLine rest

/-- Join neighbouring texts. -/
def meld : List Part → List Part
  | [] => []
  | part :: rest =>
      match part, meld rest with
      | text a s, text b t :: more => text (a ++ b) (s.cover t) :: more
      | part, more => part :: more

/-! ## Directives -/

/-- The text of some expressions, empty at a place if there are none. -/
def textOf (place : Position) (exprs : List Expr) : Expr :=
  match exprs, exprs.getLast? with
  | first :: rest, some last => .template (first :: rest) (first.span.cover last.span)
  | _, _ => .template [.literal (.text "") ⟨place, place⟩] ⟨place, place⟩

/-- What was read of some parts: an expression, the problems with it, and the parts after it. -/
structure Result where
  expr : Expr
  problems : List Diagnostic
  rest : List Part

/-- A failure at a place. -/
def failed (problems : List Diagnostic) (problem : Problem) (span : Span) (rest : List Part) :
    Result :=
  ⟨.missing span, problems ++ [⟨problem, span⟩], rest⟩

mutual

/-- Read a part and what belongs to it. -/
def readPart : (fuel : Nat) → (finish : Span) → Part → List Part → Result
  | 0, finish, _, _ => ⟨.missing finish, [], []⟩
  | fuel + 1, finish, part, rest =>
      match part with
      | text chars span => ⟨.literal (.ofText chars) span, [], rest⟩
      | hole inner _ => ⟨inner, [], rest⟩
      | condition test span => readBranches fuel finish test span [] none [] rest
      | loop names collection span => readLoop fuel finish names collection span [] [] rest
      | close closing span => failed [] (.directiveUnbalanced closing.word) span rest

/-- Read the branches of a condition up to its end. The second branch is there from the word that
begins it on. -/
def readBranches : (fuel : Nat) → (finish : Span) → (test : Expr) → (start : Span) →
    (first : List Expr) → (second : Option (List Expr)) → List Diagnostic → List Part → Result
  | 0, finish, _, _, _, _, _, _ => ⟨.missing finish, [], []⟩
  | fuel + 1, finish, test, start, first, second, problems, parts =>
      match parts with
      | [] => failed problems (.directiveNotClosed "if" "endif" start) finish []
      | close .otherwise span :: rest =>
          match second with
          | none => readBranches fuel finish test start first (some []) problems rest
          | some _ => failed problems (.alternativeRepeated start) span rest
      | close .endIf span :: rest =>
          let whenTrue := textOf start.stop first
          let whenFalse := textOf span.start (second.getD [])
          ⟨.conditional test whenTrue whenFalse (start.cover span), problems, rest⟩
      | close .endFor span :: rest =>
          failed problems (.directiveCrossed "endfor" "if" start) span rest
      | part :: rest =>
          let next := readPart fuel finish part rest
          let problems := problems ++ next.problems
          match second with
          | none =>
              readBranches fuel finish test start (first ++ [next.expr]) none problems next.rest
          | some exprs =>
              readBranches fuel finish test start first (some (exprs ++ [next.expr])) problems
                next.rest

/-- Read the body of a loop up to its end. -/
def readLoop : (fuel : Nat) → (finish : Span) → ItemNames → (collection : Expr) →
    (start : Span) → (body : List Expr) → List Diagnostic → List Part → Result
  | 0, finish, _, _, _, _, _, _ => ⟨.missing finish, [], []⟩
  | fuel + 1, finish, names, collection, start, body, problems, parts =>
      match parts with
      | [] => failed problems (.directiveNotClosed "for" "endfor" start) finish []
      | close .otherwise span :: rest => failed problems .alternativeOfLoop span rest
      | close .endIf span :: rest =>
          failed problems (.directiveCrossed "endif" "for" start) span rest
      | close .endFor span :: rest =>
          let value := textOf start.stop body
          let always := Expr.constant "true" (.bool true) start
          ⟨.joined (.listing names collection value always start (start.cover span)), problems,
            rest⟩
      | part :: rest =>
          let next := readPart fuel finish part rest
          readLoop fuel finish names collection start (body ++ [next.expr])
            (problems ++ next.problems) next.rest

end

/-- Read all parts. -/
def readAll : (fuel : Nat) → (finish : Span) → List Part → List Expr × List Diagnostic
  | 0, _, _ | _, _, [] => ([], [])
  | fuel + 1, finish, part :: rest =>
      let next := readPart (2 * rest.length + 4) finish part rest
      let (exprs, problems) := readAll fuel finish next.rest
      (next.expr :: exprs, next.problems ++ problems)

/-- The string of some parts up to the token that ends it. One without parts is an empty text at
`place`; one that is a single interpolation has the value of that. -/
def assemble (flush : Bool) (place : Position) (finish span : Span) (parts : List Part) :
    Expr × List Diagnostic :=
  let parts := if parts.isEmpty then [text "" ⟨place, place⟩] else parts
  let parts := meld (if flush then outdent (commonIndentation parts) true parts else parts)
  match parts with
  | [hole inner _] => (.quoted inner span, [])
  | parts =>
      let (exprs, problems) := readAll (parts.length + 1) finish parts
      (.template exprs span, problems)

end Part

end FieldGraph.Config
