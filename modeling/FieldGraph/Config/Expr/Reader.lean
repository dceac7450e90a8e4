import FieldGraph.Config.Cursor
import FieldGraph.Config.Expr.Template
import FieldGraph.Config.Literal
import FieldGraph.Text.Distance

/-!
# Reading expressions

One function for each form of expression, from the loosest binding to the tightest. Line ends
count only where an argument could end, so each function is told whether they do. The fuel is a
bound on nesting; every call that does not pass a token leads to a tighter form, so a small
multiple of the number of tokens is enough.
-/

namespace FieldGraph.Config.Expr

open Reading

/-- The number of a token. -/
def numberOf (t : Token) : Reading Expr := do
  match Number.read? t.text with
  | some n => return literal (.number n) t.span
  | none =>
      report .invalidNumber t.span
      return missing t.span

/-- The value of a number after a point, as a key. Two indices look like one number with a point in
it, which is reported at a place. -/
def pointedKey (inSplat : Bool) (t : Token) (place : Span) : Reading Value := do
  if t.text.contains '.' then
    report (.chainedIndex inSplat (String.ofList (t.text.takeWhile (· ≠ '.')))
      (String.ofList ((t.text.dropWhile (· ≠ '.')).drop 1))) place
    return .anything
  else return (← numberOf t).writtenKey?.getD .anything

/-- A construct that goes over the items of a collection. -/
inductive Loop where
  | comprehension
  | directive

namespace Loop

/-- A problem with a loop. -/
def fault : Loop → String → Problem
  | comprehension => .comprehension
  | directive => .loopDirective

/-- How messages name a loop. -/
def name : Loop → String
  | comprehension => "For expression"
  | directive => "For directive"

/-- What is required between the names and the collection. -/
def separator : Loop → String
  | comprehension => "the 'in' keyword after its name declarations."
  | directive => "'in' keyword after names."

/-- Report what a loop requires at the next token. -/
def requires (loop : Loop) (what : String) : Reading Unit := do
  reportFirst (loop.fault (loop.name ++ " requires " ++ what)) (← peek false).span

/-- Read a name that an item gets. -/
def itemName (loop : Loop) (what : String) : Reading (Option String) := do
  if (← peek false).kind == .word then return some (← read false).word
  else
    loop.requires what
    return none

/-- Read the names of a loop and the word that ends them. -/
def itemNames (loop : Loop) : Reading (Option ItemNames) := do
  let some first ← loop.itemName "variable name after 'for'." | return none
  let names : Option ItemNames ←
    if (← peek false).isSymbol "," then do
      let _ ← read false
      let second ← loop.itemName "value variable name after comma."
      pure (second.map fun value => ⟨some first, value⟩)
    else pure (some ⟨none, first⟩)
  let some names := names | return none
  if (← peek false).isWord "in" then
    let _ ← read false
    return some names
  else
    loop.requires loop.separator
    return none

end Loop

/-- Read the rest of a name in namespaces. At the end is the name's place with that of the opening
parenthesis after it, if there is one. -/
def callHead (newlines : Bool) : Nat → (name : Span) → (opening : Token) →
    Reading (Option Span)
  | 0, _, _ => return none
  | fuel + 1, name, opening => do
      match opening.kind with
      | .symbol "::" =>
          let next ← read newlines
          if next.kind == .word then
            callHead newlines fuel (name.cover next.span) (← read newlines)
          else
            report .functionNameRequired next.span
            recoverCall
            return none
      | .symbol "(" => return some (name.cover opening.span)
      | _ =>
          report .parenthesisRequired opening.span
          recoverCall
          return none

/-- Read the steps by name and number after a splat that takes only such. Nothing is returned when
another step follows. -/
def pointSteps (newlines : Bool) (star : Span) : Nat → List Step → Reading (Option (List Step))
  | 0, steps => return some steps
  | fuel + 1, steps => do
      let point ← peek newlines
      unless point.isSymbol "." do return some steps
      let _ ← read newlines
      let t ← peek newlines
      match t.kind with
      | .number =>
          let _ ← read newlines
          let key ← pointedKey true t star
          pointSteps newlines star fuel (steps ++ [.element key (point.span.cover t.span)])
      | .word =>
          let _ ← read newlines
          pointSteps newlines star fuel (steps ++ [.member t.word (point.span.cover t.span)])
      | kind =>
          if kind == .symbol "*" then reportFirst .splatNested t.span
          else reportFirst .attributeNameRequired star
          beginRecovery
          return none

/-- The splat of an expression with steps by name and number. -/
def pointSplat (source : Expr) (marker : Span) : List Step → Expr
  | [] => splat source (item marker) marker (source.span.cover marker)
  | first :: rest =>
      let last := ((first :: rest).getLast?.getD first).span
      splat source (relative (item marker) (first :: rest) (first.span.cover last)) marker
        (source.span.cover last)

mutual

/-- Any expression. -/
def readAny : Nat → Bool → Reading Expr
  | 0, _ => return default
  | fuel + 1, newlines => do
      let start ← mark
      let first ← peek newlines
      let condition ← readLevel fuel newlines BinaryOp.levels
      if ← lostSince start then return condition
      let question ← peek newlines
      unless question.isSymbol "?" do return condition
      let _ ← read newlines
      let whenTrue ← readAny fuel newlines
      if ← lostSince start then return condition
      let colon ← peek newlines
      unless colon.isSymbol ":" do
        report .falseBranchRequired colon.span
        return condition
      let _ ← read newlines
      let whenFalse ← readAny fuel newlines
      return conditional condition whenTrue whenFalse (first.span.cover whenFalse.span)

/-- An expression of operators that bind as tightly as the first level or tighter. -/
def readLevel : Nat → Bool → List (List BinaryOp) → Reading Expr
  | 0, _, _ => return default
  | fuel + 1, newlines, [] => do
      let term ← readTerm fuel newlines
      readSteps fuel newlines term
  | fuel + 1, newlines, ops :: tighter => do
      let start ← mark
      let left ← readLevel fuel newlines tighter
      if ← lostSince start then return left
      readOperations fuel newlines ops tighter left

/-- The operators of one level that follow an operand, grouped from the left. -/
def readOperations : Nat → Bool → List BinaryOp → List (List BinaryOp) → Expr → Reading Expr
  | 0, _, _, _, left => return left
  | fuel + 1, newlines, ops, tighter, left => do
      let t ← peek newlines
      match ops.find? fun op => t.isSymbol op.symbol with
      | none => return left
      | some op =>
          let start ← mark
          let _ ← read newlines
          let right ← readLevel fuel newlines tighter
          if ← lostSince start then return left
          readOperations fuel newlines ops tighter
            (binary op left right (left.span.cover right.span))

/-- The parts taken from a term, by name and by key, and splats of it. -/
def readSteps : Nat → Bool → Expr → Reading Expr
  | 0, _, term => return term
  | fuel + 1, newlines, term => do
      let t ← peek newlines
      if t.isSymbol "." then
        let _ ← read newlines
        let name ← peek newlines
        let place := t.span.cover name.span
        match name.kind with
        | .word =>
            let _ ← read newlines
            readSteps fuel newlines (term.andStep (.member name.word place))
        | .number =>
            let _ ← read newlines
            let key ← pointedKey false name name.span
            readSteps fuel newlines (term.andStep (.element key place))
        | .symbol "*" =>
            let _ ← read newlines
            match ← pointSteps newlines name.span fuel [] with
            | some steps => readSteps fuel newlines (pointSplat term place steps)
            | none => readSteps fuel newlines term
        | _ =>
            report .attributeNameRequired name.span
            beginRecovery
            readSteps fuel newlines term
      else if t.isSymbol "[" then
        let _ ← read newlines
        if (← peek newlines).isSymbol "*" then
          let _ ← read newlines
          let close ← read newlines
          let close ←
            if close.isSymbol "]" || (← get).recovering then pure close
            else do
              report .splatNotClosed close.span
              recover .square
          let marker := t.span.cover close.span
          let each ← readSteps fuel newlines (item marker)
          readSteps fuel newlines (splat term each marker (term.span.cover each.span))
        else
          let start ← mark
          let key ← readAny fuel false
          let close ←
            if ← lostSince start then recover .square
            else do
              let close ← read false
              if close.isSymbol "]" || (← get).recovering then pure close
              else do
                report .indexNotClosed close.span
                recover .square
          readSteps fuel newlines (term.andKey key t.span (t.span.cover close.span))
      else return term

/-- An expression without operators around it. -/
def readTerm : Nat → Bool → Reading Expr
  | 0, _ => return default
  | fuel + 1, newlines => do
      let t ← peek newlines
      match t.kind with
      | .symbol "(" =>
          let _ ← read newlines
          let start ← mark
          let inner ← readAny fuel false
          if ← failedSince start then
            let _ ← recover .round
            return inner
          let close ← peek false
          unless close.isSymbol ")" do
            report .unbalancedParentheses close.span
            beginRecovery
          let close ← read false
          return enclosed inner (t.span.cover close.span)
      | .number =>
          let _ ← read newlines
          numberOf t
      | .word =>
          let _ ← read newlines
          let after ← peek newlines
          if after.isSymbol "(" || after.isSymbol "::" then
            match ← callHead newlines fuel t.span (← read newlines) with
            | none => return missing t.span
            | some head =>
                let close ← readArguments fuel head
                return call head (t.span.cover close.span)
          else match t.word with
            | "true" => return constant "true" (.bool true) t.span
            | "false" => return constant "false" (.bool false) t.span
            | "null" => return constant "null" .nothing t.span
            | name => return path name t.span [] t.span
      | .openQuote =>
          let _ ← read newlines
          readString fuel newlines .quote false t.span
      | .openBlock flush =>
          let _ ← read newlines
          readString fuel newlines .block flush t.span
      | .symbol "-" =>
          let _ ← read newlines
          let operand ← readLevel fuel newlines []
          return unary .negate operand t.span (t.span.cover operand.span)
      | .symbol "!" =>
          let _ ← read newlines
          let operand ← readLevel fuel newlines []
          return unary .not operand t.span (t.span.cover operand.span)
      | .symbol "[" =>
          let _ ← read newlines
          let word ← peek false
          if word.isWord "for" then readComprehension fuel t
          else
            let (items, close) ← readItems fuel t []
            return tuple items t.span (t.span.cover close.span)
      | .symbol "\x7b" =>
          let _ ← read newlines
          let word ← peek false
          if word.isWord "for" then readComprehension fuel t
          else
            let (entries, close) ← readEntries fuel t []
            return object (entries.map (·.1)) (entries.map (·.2)) t.span
              (t.span.cover close.span)
      | kind =>
          reportFirst (if kind == .finish then .missingExpression else .invalidExpression) t.span
          beginRecovery
          return missing t.span

/-- The arguments of a call up to the closing parenthesis, which is returned. -/
def readArguments : Nat → Span → Reading Token
  | 0, _ => return Token.nothing
  | fuel + 1, head => do
      let t ← peek false
      if t.isSymbol ")" then read false
      else
        let start ← mark
        let _ ← readAny fuel false
        if ← lostSince start then recover .round
        else
          let separator ← read false
          match separator.kind with
          | .symbol ")" => return separator
          | .symbol "," => readArguments fuel head
          | .symbol "..." =>
              let close ← peek false
              if close.isSymbol ")" then read false
              else
                reportFirst .expansionNotLast separator.span
                recover .round
          | .finish =>
              report .callNotClosed head
              recover .round
          | _ =>
              report .callSeparator separator.span
              recover .round

/-- The items of a tuple up to the closing bracket. -/
def readItems : Nat → Token → List Expr → Reading (List Expr × Token)
  | 0, _, items => return (items, Token.nothing)
  | fuel + 1, opening, items => do
      let t ← peek false
      if t.isSymbol "]" then return (items, ← read false)
      let start ← mark
      let item ← readAny fuel false
      let items := items ++ [item]
      if ← lostSince start then return (items, ← recover .square)
      let t ← peek false
      match t.kind with
      | .symbol "]" => return (items, ← read false)
      | .symbol "," =>
          let _ ← read false
          readItems fuel opening items
      | .finish =>
          reportFirst .tupleNotClosed opening.span
          return (items, ← recover .square)
      | _ =>
          reportFirst .tupleSeparator t.span
          return (items, ← recover .square)

/-- The entries of an object up to the closing brace. Line ends separate entries. -/
def readEntries : Nat → Token → List (Expr × Expr) → Reading (List (Expr × Expr) × Token)
  | 0, _, entries => return (entries, Token.nothing)
  | fuel + 1, opening, entries => do
      let t ← peek true
      if t.kind == .newline then
        let _ ← read true
        readEntries fuel opening entries
      else if t.isSymbol "\x7d" then return (entries, ← read true)
      else
        let start ← mark
        let key ← readAny fuel true
        if ← lostSince start then return (entries, ← recover .brace)
        let sign ← peek true
        unless sign.isSymbol "=" || sign.isSymbol ":" do
          match sign.kind with
          | .newline | .symbol "," => reportFirst .attributeValueRequired sign.span
          | .word => reportFirst (.keySeparator true) sign.span
          | .finish => reportFirst .objectNotClosed opening.span
          | _ => reportFirst (.keySeparator false) sign.span
          return (entries, ← recover .brace)
        let _ ← read true
        let value ← readAny fuel true
        if ← lostSince start then return (entries, ← recover .brace)
        let entries := entries ++ [(key, value)]
        let separator ← peek true
        match separator.kind with
        | .symbol "\x7d" => return (entries, ← read true)
        | .symbol "," | .newline =>
            let _ ← read true
            readEntries fuel opening entries
        | .finish =>
            reportFirst .objectNotClosed opening.span
            return (entries, ← recover .brace)
        | _ =>
            reportFirst .objectSeparator separator.span
            return (entries, ← recover .brace)

/-- A comprehension, from the word that introduces it on. -/
def readComprehension : Nat → Token → Reading Expr
  | 0, _ => return default
  | fuel + 1, opening => do
      let square := opening.isSymbol "["
      let bracket : Bracket := if square then .square else .brace
      let giveUp : Reading Expr := do
        let close ← recover bracket
        return missing (opening.span.cover close.span)
      let start ← mark
      let _ ← read false
      let some names ← Loop.itemNames .comprehension | giveUp
      let collection ← readAny fuel false
      if ← lostSince start then return ← giveUp
      unless (← peek false).isSymbol ":" do
        Loop.requires .comprehension "a colon after the collection expression."
        return ← giveUp
      let _ ← read false
      let first ← readAny fuel false
      let second ←
        if (← peek false).isSymbol "=>" then do
          let _ ← read false
          pure (some (← readAny fuel false))
        else pure none
      if ← lostSince start then return ← giveUp
      let ellipsis ← peek false
      let grouped := ellipsis.isSymbol "..."
      if grouped then
        let _ ← read false
      let filter ←
        if (← peek false).isWord "if" then do
          let _ ← read false
          readAny fuel false
        else pure (constant "true" (.bool true) opening.span)
      if ← lostSince start then return ← giveUp
      let close ←
        if (← peek false).kind.closes? == some bracket then read false
        else do
          reportFirst (.comprehension "Extra characters after the end of the 'for' expression.")
            (← peek false).span
          recover bracket
      let span := opening.span.cover close.span
      match square, second with
      | true, second =>
          if second.isSome then
            report (.comprehension "Key expression is not valid when building a tuple.")
              first.span
          if grouped then
            report (.comprehension
              "Grouping ellipsis (...) cannot be used when building a tuple.") ellipsis.span
          return listing names collection (second.getD first) filter opening.span span
      | false, none =>
          report (.comprehension "Key expression is required when building an object.") first.span
          return missing span
      | false, some value =>
          return mapping names collection first value filter grouped opening.span span

/-- A string from its first part on. -/
def readString : Nat → Bool → Bracket → Bool → Span → Reading Expr
  | 0, _, _, _, _ => return default
  | fuel + 1, newlines, bracket, flush, opening => do
      let start := (← peek newlines).span
      let parts ← readParts fuel newlines bracket start false []
      let finish ← lastSpan
      let (expr, problems) :=
        Part.assemble flush start.stop finish (opening.cover finish) parts
      for d in problems do report d.problem d.span
      return expr

/-- The parts of a string up to its end. Blanks at the start of a part are dropped if the part
before it asked for that. -/
def readParts : Nat → Bool → Bracket → Span → Bool → List Part → Reading (List Part)
  | 0, _, _, _, _, parts => return parts
  | fuel + 1, newlines, bracket, first, trim, parts => do
      let t ← read newlines
      if t.kind.closes? == some bracket then return parts
      match t.kind with
      | .quoted | .blockText =>
          let (chars, problems) := Literal.decode (t.kind == .quoted) t.span.start t.text
          for d in problems do report d.problem d.span
          let chars :=
            if trim then String.ofList (chars.toList.dropWhile Text.isBlank) else chars
          readParts fuel newlines bracket first false (parts ++ [.text chars t.span])
      | .openHole trimBefore =>
          let parts := if trimBefore then Part.trimLast parts else parts
          let inner ← readAny fuel false
          let close ← peek false
          let part := Part.hole inner (t.span.cover close.span)
          match close.kind with
          | .closeHole trimAfter =>
              let _ ← read false
              readParts fuel newlines bracket first trimAfter (parts ++ [part])
          | kind =>
              match kind with
              | .finish => reportFirst (.holeNotClosed "file") first
              | .symbol ":" => reportFirst .colonInHole close.span
              | .openQuote | .closeQuote =>
                  if bracket = .quote then reportFirst (.holeNotClosed "quoted template") first
                  else reportFirst .strayInHole close.span
              | _ => reportFirst .strayInHole close.span
              let _ ← recover .hole
              readParts fuel newlines bracket first false (parts ++ [part])
      | .openDirective trimBefore =>
          let parts := if trimBefore then Part.trimLast parts else parts
          let word ← peek false
          match ← readDirective fuel t.span with
          | none =>
              let _ ← recover .hole
              readParts fuel newlines bracket first false parts
          | some part =>
              let close ← peek false
              match close.kind with
              | .closeHole trimAfter =>
                  let _ ← read false
                  readParts fuel newlines bracket first trimAfter (parts ++ [part])
              | _ =>
                  reportFirst (.strayInDirective word.word) close.span
                  let _ ← recover .hole
                  readParts fuel newlines bracket first false (parts ++ [part])
      | _ =>
          reportFirst .stringNotClosed t.span
          let _ ← recover bracket
          return parts

/-- A directive after its opening, up to its end. -/
def readDirective : Nat → Span → Reading (Option Part)
  | 0, _ => return none
  | fuel + 1, opening => do
      let word ← peek false
      if word.kind != .word then
        reportFirst .invalidDirective word.span
        return none
      let _ ← read false
      let toNext : Reading Span := return opening.cover (← peek false).span
      match word.word, Closing.ofWord? word.word with
      | _, some closing => return some (.close closing (← toNext))
      | "if", _ =>
          let test ← readAny fuel false
          return some (.condition test (← toNext))
      | "for", _ =>
          let some names ← Loop.itemNames .directive | return none
          let collection ← readAny fuel false
          return some (.loop names collection (← toNext))
      | name, none =>
          let meant := Text.similar? name ["if", "for", "else", "endif", "endfor"]
          reportFirst (.unknownDirective name meant) word.span
          return none

end

/-- Read an expression where line ends may end it. -/
def read : Reading Expr := do
  let tokens := (← get).rest.length
  readAny (16 * (tokens + 4)) true

end FieldGraph.Config.Expr
