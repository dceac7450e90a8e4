import FieldGraph.Config.Body.Basic
import FieldGraph.Config.Expr.Reader

/-!
# Reading bodies

An argument or a block ends with its line. A block on one line holds a single argument. A broken
item is skipped to the end of its line, a broken body to its closing brace, so that one text can
have several problems.
-/

namespace FieldGraph.Config

open Reading

namespace Body

/-- Read a label between quotes. -/
def readLabelText : Nat → String → Reading String
  | 0, text => return text
  | fuel + 1, text => do
      let t ← read true
      match t.kind with
      | .closeQuote => return text
      | .quoted =>
          let (chars, problems) := Literal.decode true t.span.start t.text
          for d in problems do report d.problem d.span
          readLabelText fuel (text ++ chars)
      | .openHole _ =>
          report (.holeInLabel "$") t.span
          let _ ← recover .hole
          readLabelText fuel text
      | .openDirective _ =>
          report (.holeInLabel "%") t.span
          let _ ← recover .hole
          readLabelText fuel text
      | .finish =>
          report .unclosedLabel t.span
          return text
      | _ =>
          report .strayInLabel t.span
          let _ ← recover .quote
          return text

/-- Read the labels of a block up to its opening brace, if it has one. -/
def readLabels : Nat → List Label → Reading (List Label × Option Token)
  | 0, labels => return (labels, none)
  | fuel + 1, labels => do
      let t ← peek true
      match t.kind with
      | .symbol "\x7b" => return (labels, some (← read true))
      | .openQuote =>
          let _ ← read true
          let text ← readLabelText fuel ""
          readLabels fuel (labels ++ [⟨text, t.span.cover (← lastSpan)⟩])
      | .word =>
          let _ ← read true
          readLabels fuel (labels ++ [⟨t.word, t.span⟩])
      | kind =>
          match kind with
          | .symbol "=" => report .equalsInHeader t.span
          | .newline => report .newlineInHeader t.span
          | _ => reportFirst .strayInHeader t.span
          recoverLine
          return (labels, none)

/-- Read the value of an argument after its name. Inside of a block on one line no line end
has to follow. -/
def readArgument (inLine : Bool) (name : Token) : Reading Argument := do
  let _ ← read true
  let start ← mark
  let expr ← Expr.read
  let span := name.span.cover (← lastSpan)
  if ← lostSince start then recoverLine
  else unless inLine do
    let t ← peek true
    if t.kind == .newline || t.kind == .finish then
      let _ ← read true
    else
      reportFirst (if t.isSymbol "," then .commaAfterArgument else .newlineAfterArgument) t.span
      recoverLine
  return ⟨name.word, expr, name.span, span⟩

/-- Read the only argument of a block on one line. -/
def readOnlyArgument : Reading (Option Argument) := do
  let name ← read true
  if name.kind != .word then
    recoverLine
    report .itemRequired name.span
    return none
  let t ← peek true
  match t.kind with
  | .symbol "=" => return some (← readArgument true name)
  | .openQuote | .symbol "\x7b" | .word =>
      recoverLine
      report (.lineArgumentRequired name.word) (name.span.cover t.span)
      return none
  | _ =>
      recoverLine
      report .equalsRequired name.span
      return none

/-- Read the body and the closing brace of a block on one line. Problems with the brace come
before those of the argument. -/
def readLine (opening : Token) : Reading (Body × Position) := do
  let before ← mark
  let argument ← readOnlyArgument
  let t ← peek true
  let complain (always : Bool) (problem : Problem) (span : Span) : Reading Unit := do
    let c ← get
    if always || !c.recovering then
      set { c with
        problems :=
          c.problems.take before ++ [(⟨problem, span⟩ : Diagnostic)] ++ c.problems.drop before }
    let _ ← recover .brace
  match t.kind with
  | .symbol "\x7d" =>
      let _ ← read true
  | .symbol "," => complain true .commaInLine t.span
  | .newline => complain true .newlineInLine t.span
  | .finish => complain false .unclosedBlock opening.span
  | _ => complain false .strayInLine t.span
  match argument with
  | some a => return ({ arguments := [a] }, a.span.start)
  | none => return ({}, opening.span.start)

mutual

/-- Read items up to the token that closes a bracket. The span is the token that opens it. -/
def readItems : Nat → Bracket → Span → Body → Reading Body
  | 0, _, _, body => return body
  | fuel + 1, bracket, opening, body => do
      let t ← peek true
      if t.kind.closes? == some bracket then
        let _ ← read true
        return body
      match t.kind with
      | .newline =>
          let _ ← read true
          readItems fuel bracket opening body
      | .word =>
          let _ ← read true
          let sign ← peek true
          match sign.kind with
          | .symbol "=" =>
              let argument ← readArgument false t
              match body.arguments.find? (·.name == argument.name) with
              | some first =>
                  report (.redefined argument.name first.nameSpan) argument.nameSpan
                  readItems fuel bracket opening body
              | none =>
                  readItems fuel bracket opening
                    { body with arguments := body.arguments ++ [argument] }
          | .openQuote | .symbol "\x7b" | .word =>
              let block ← readBlock fuel t
              readItems fuel bracket opening { body with blocks := body.blocks ++ [block] }
          | _ =>
              recoverLine
              report .equalsRequired t.span
              readItems fuel bracket opening body
      | kind =>
          let _ ← read true
          match kind with
          | .openQuote => reportFirst .quotedName t.span
          | .finish => reportFirst .unclosedBlock opening
          | _ => reportFirst .itemRequired t.span
          let _ ← recover bracket
          return body

/-- Read a block after its type. -/
def readBlock : Nat → Token → Reading Block
  | 0, type => return ⟨type.word, type.span, [], type.span, [], [], type.span.start⟩
  | fuel + 1, type => do
      let (labels, opening?) ← readLabels fuel []
      let some opening := opening?
        | return ⟨type.word, type.span, labels, type.span, [], [], type.span.start⟩
      let t ← peek true
      let (body, start) ← match t.kind with
        | .newline | .finish | .symbol "\x7d" => do
            pure (← readItems fuel .brace opening.span {}, opening.span.start)
        | _ => readLine opening
      let after ← peek true
      if after.kind == .newline || after.kind == .finish then
        let _ ← read true
      else
        reportFirst .newlineAfterBlock after.span
        recoverLine
      return ⟨type.word, type.span, labels, opening.span, body.arguments, body.blocks, start⟩

end

/-- Problems with the tokens of a text, whatever they are part of. Of a run of apostrophes or
backticks only every second one is reported, since they come in pairs. -/
def strayTokens (tokens : List Token) : List Diagnostic :=
  let kinds (symbol : String) := tokens.filter (·.isSymbol symbol)
  let paired (symbol : String) :=
    ((kinds symbol).mapIdx fun i t => (i, t)).filterMap fun (i, t) =>
      if i = 0 ∨ i = 2 then some t.span else none
  let bits := (tokens.filter fun t => ["&", "|", "~", "^"].any t.isSymbol).take 4
  tokens.filterMap fun t =>
    let here (problem : Problem) : Option Diagnostic := some ⟨problem, t.span⟩
    match t.kind with
    | .symbol ";" => if (kinds ";").head? == some t then here .semicolon else none
    | .symbol "'" => if t.span ∈ paired "'" then here .apostrophe else none
    | .symbol "`" => if t.span ∈ paired "`" then here .backtick else none
    | .symbol _ => if t ∈ bits then here (.bitOperator t.word) else none
    | .splitLine => here .splitString
    | .stray => here (if t.text = ['“'] ∨ t.text = ['”'] then .curlyQuote else .strayCharacter)
    | _ => none

/-- The body of a file, with all problems found in its text. -/
def ofText (source : String) : Body × List Diagnostic :=
  let tokens := Token.list source
  let first := (tokens.head?.map (·.span)).getD {}
  let start : Cursor := { rest := tokens, last := first }
  let (body, stop) := (readItems (2 * tokens.length + 4) .file first {}).run start
  (body, strayTokens tokens ++ stop.problems)

end Body

end FieldGraph.Config
