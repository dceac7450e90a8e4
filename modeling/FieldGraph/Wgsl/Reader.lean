import FieldGraph.Wgsl.Shape
import FieldGraph.Wgsl.Token

/-!
# Reading shader modules

One function for each form of the language, from the tokens that are left to the tree and the
tokens after it. The fuel is a bound on nesting; every call that does not pass a token leads to a
tighter form, so a small multiple of the number of tokens is enough.
-/

namespace FieldGraph.Wgsl

/-- A step of reading, which may fail. -/
abbrev Reading := StateT (List Token) Option

namespace Reading

/-- The next token, which stays where it is. -/
def peek? : Reading (Option Token) := return (← get).head?

/-- Pass the next token. -/
def take : Reading Token := do
  match ← get with
  | t :: rest => do
      set rest
      return t
  | [] => failure

/-- Pass a symbol if it comes next. -/
def accept (symbol : String) : Reading Bool := do
  if (← peek?) = some (.symbol symbol) then
    let _ ← take
    return true
  else return false

/-- Pass a symbol that must come next. -/
def expect (symbol : String) : Reading Unit := do
  unless ← accept symbol do failure

/-- Pass a word if it comes next. -/
def acceptWord (word : String) : Reading Bool := do
  if (← peek?) = some (.word word) then
    let _ ← take
    return true
  else return false

/-- Words that cannot name anything. -/
def reserved : List String :=
  ["alias", "break", "case", "const", "const_assert", "continue", "continuing", "default",
   "diagnostic", "discard", "else", "enable", "false", "fn", "for", "if", "let", "loop",
   "override", "requires", "return", "struct", "switch", "true", "var", "while"]

/-- A name that is declared. -/
def newName : Reading String := do
  match ← take with
  | .word name => if name ∈ reserved then failure else return name
  | _ => failure

/-- Pass the end of a template list, which may be part of a longer symbol. -/
def closeTemplate : Reading Unit := do
  match ← take with
  | .symbol ">" => return
  | .symbol ">>" => modify (.symbol ">" :: ·)
  | .symbol ">=" => modify (.symbol "=" :: ·)
  | .symbol ">>=" => modify (.symbol ">=" :: ·)
  | _ => failure

/-- Symbols that join two operands, by how tightly they bind, loosest first. -/
def levels : List (List String) :=
  [["||"], ["&&"], ["|"], ["^"], ["&"], ["==", "!="], ["<", ">", "<=", ">="], ["<<", ">>"],
   ["+", "-"], ["*", "/", "%"]]

/-- The levels that can stand in a template list, where an angle bracket ends it. -/
def innerLevels : List (List String) := levels.drop 8

/-- Symbols before an operand. -/
def unaryOperators : List String := ["-", "!", "~", "&", "*"]

mutual

/-- An expression of operators that bind as tightly as the first level or tighter. -/
def level : Nat → List (List String) → Reading Expr
  | 0, _ => failure
  | fuel + 1, [] => operand fuel
  | fuel + 1, ops :: tighter => do
      let left ← level fuel tighter
      operations fuel ops tighter left

/-- The operators of one level that follow an operand, grouped from the left. -/
def operations : Nat → List String → List (List String) → Expr → Reading Expr
  | 0, _, _, _ => failure
  | fuel + 1, ops, tighter, left => do
      match ← peek? with
      | some (.symbol s) =>
          if s ∈ ops then
            let _ ← take
            let right ← level fuel tighter
            operations fuel ops tighter (.binary s left right)
          else return left
      | _ => return left

/-- An operand with what stands before and after it. -/
def operand : Nat → Reading Expr
  | 0 => failure
  | fuel + 1 => do
      match ← take with
      | .number text => selections fuel (.number text)
      | .symbol "(" => do
          let inner ← level fuel levels
          expect ")"
          selections fuel inner
      | .symbol s =>
          if s ∈ unaryOperators then return .unary s (← operand fuel) else failure
      | .word ident => do
          if ident ∈ reserved ∧ ident ≠ "true" ∧ ident ≠ "false" then failure
          let templates ← templateList fuel ident
          let e ←
            if ← accept "(" then do pure (.call ident templates (← row fuel ")"))
            else pure (.name ident templates)
          selections fuel e

/-- Members and items of an operand. -/
def selections : Nat → Expr → Reading Expr
  | 0, _ => failure
  | fuel + 1, e => do
      if ← accept "." then
        match ← take with
        | .word name => selections fuel (.member e name)
        | _ => failure
      else if ← accept "[" then
        let key ← level fuel levels
        expect "]"
        selections fuel (.index e key)
      else return e

/-- The template list after a name that can have one. -/
def templateList : Nat → String → Reading (List Expr)
  | 0, _ => failure
  | fuel + 1, ident => do
      if ident ∈ Shape.generics then
        if ← accept "<" then templateItems fuel else return []
      else return []

/-- The items of a template list and its end. -/
def templateItems : Nat → Reading (List Expr)
  | 0 => failure
  | fuel + 1 => do
      let first ← level fuel innerLevels
      if ← accept "," then
        match ← peek? with
        | some (.symbol s) =>
            if s.startsWith ">" then
              closeTemplate
              return [first]
            else return first :: (← templateItems fuel)
        | _ => return first :: (← templateItems fuel)
      else
        closeTemplate
        return [first]

/-- Expressions with commas between them, up to a closing symbol. -/
def row : Nat → String → Reading (List Expr)
  | 0, _ => failure
  | fuel + 1, closing => do
      if ← accept closing then return []
      let first ← level fuel levels
      if ← accept "," then return first :: (← row fuel closing)
      else
        expect closing
        return [first]

end

/-- Any expression. -/
def expression (fuel : Nat) : Reading Expr := level fuel levels

/-- A type: a name with a template list. -/
def type (fuel : Nat) : Reading Expr := do
  match ← take with
  | .word ident =>
      if ident ∈ reserved then failure else return .name ident (← templateList fuel ident)
  | _ => failure

/-- A type after a colon, if there is one. -/
def typeAfterColon? (fuel : Nat) : Reading (Option Expr) := do
  if ← accept ":" then return some (← type fuel) else return none

/-- A value after an equals sign, if there is one. -/
def valueAfterEquals? (fuel : Nat) : Reading (Option Expr) := do
  if ← accept "=" then return some (← expression fuel) else return none

/-- The name, type and value of a variable after the word that introduces it. -/
def nameAndValue (fuel : Nat) : Reading (String × Option Expr × Option Expr) := do
  if ← accept "<" then
    let _ ← templateItems fuel
  let name ← newName
  let type ← typeAfterColon? fuel
  return (name, type, ← valueAfterEquals? fuel)

/-- Symbols that assign. -/
def assignOperators : List String :=
  ["=", "+=", "-=", "*=", "/=", "%=", "&=", "|=", "^=", "<<=", ">>="]

/-- The statement of a call. -/
def called : Expr → Reading Statement
  | .call ident templates arguments => return .perform ident templates arguments
  | _ => failure

/-- An assignment, a step by one or a call, without the semicolon. -/
def action (fuel : Nat) : Reading Statement := do
  let target ← operand fuel
  match ← peek? with
  | some (.symbol s) =>
      if s ∈ assignOperators then
        let _ ← take
        return .assign (some target) (← expression fuel)
      else if s = "++" ∨ s = "--" then
        let _ ← take
        return .step target
      else called target
  | _ => called target

/-- A declaration or an action, without the semicolon. -/
def simpleStatement (fuel : Nat) : Reading Statement := do
  match ← peek? with
  | some (.word "_") => do
      let _ ← take
      expect "="
      return .assign none (← expression fuel)
  | some (.word word) =>
      if word ∈ ["var", "let", "const"] then
        let _ ← take
        let (name, type, value) ← nameAndValue fuel
        return .declare (word = "var") name type value
      else action fuel
  | _ => action fuel

/-- The selectors of a case; nothing stands for the default. -/
def selectors : Nat → Reading (List (Option Expr))
  | 0 => failure
  | fuel + 1 => do
      let first ← if ← acceptWord "default" then pure none else pure (some (← expression fuel))
      if ← accept "," then
        match ← peek? with
        | some (.symbol ":") | some (.symbol "\x7b") => return [first]
        | _ => return first :: (← selectors fuel)
      else return [first]

mutual

/-- The statements of a block that is open, up to its end. -/
def statements : Nat → Reading (List Statement)
  | 0 => failure
  | fuel + 1 => do
      if ← accept "\x7d" then return []
      if ← accept ";" then statements fuel
      else
        let first ← statement fuel
        return first :: (← statements fuel)

/-- A block. -/
def block : Nat → Reading (List Statement)
  | 0 => failure
  | fuel + 1 => do
      expect "\x7b"
      statements fuel

/-- A statement. -/
def statement : Nat → Reading Statement
  | 0 => failure
  | fuel + 1 => do
      let ended (s : Statement) : Reading Statement := do
        expect ";"
        return s
      match ← peek? with
      | some (.symbol "\x7b") => return .block (← block fuel)
      | some (.word "return") => do
          let _ ← take
          if ← accept ";" then return .giveBack none
          ended (.giveBack (some (← expression fuel)))
      | some (.word "break") => do
          let _ ← take
          if ← acceptWord "if" then ended (.leave (some (← expression fuel)))
          else ended (.leave none)
      | some (.word "continue") => do
          let _ ← take
          ended .nextRound
      | some (.word "discard") => do
          let _ ← take
          ended .discard
      | some (.word "const_assert") => do
          let _ ← take
          ended (.constAssert (← expression fuel))
      | some (.word "if") => do
          let _ ← take
          branches fuel
      | some (.word "while") => do
          let _ ← take
          let condition ← expression fuel
          return .loop [] (some condition) [] (← block fuel) []
      | some (.word "loop") => do
          let _ ← take
          expect "\x7b"
          let (body, tail) ← loopBody fuel
          return .loop [] none [] body tail
      | some (.word "for") => do
          let _ ← take
          expect "("
          let before ← if ← accept ";" then pure [] else do
            let s ← simpleStatement fuel
            expect ";"
            pure [s]
          let condition ← if ← accept ";" then pure none else do
            let e ← expression fuel
            expect ";"
            pure (some e)
          let after ← if ← accept ")" then pure [] else do
            let s ← simpleStatement fuel
            expect ")"
            pure [s]
          return .loop before condition after (← block fuel) []
      | some (.word "switch") => do
          let _ ← take
          let selector ← expression fuel
          expect "\x7b"
          return .choose selector (← cases fuel)
      | _ => do ended (← simpleStatement fuel)

/-- The condition and the branches of a conditional. -/
def branches : Nat → Reading Statement
  | 0 => failure
  | fuel + 1 => do
      let condition ← expression fuel
      let whenTrue ← block fuel
      if ← acceptWord "else" then
        if ← acceptWord "if" then return .branch condition whenTrue [← branches fuel]
        else return .branch condition whenTrue (← block fuel)
      else return .branch condition whenTrue []

/-- The statements of a loop that is open, and those that end each round. -/
def loopBody : Nat → Reading (List Statement × List Statement)
  | 0 => failure
  | fuel + 1 => do
      if ← accept "\x7d" then return ([], [])
      if ← accept ";" then loopBody fuel
      else if ← acceptWord "continuing" then
        let tail ← block fuel
        expect "\x7d"
        return ([], tail)
      else
        let first ← statement fuel
        let (body, tail) ← loopBody fuel
        return (first :: body, tail)

/-- The cases of a switch that is open, up to its end. -/
def cases : Nat → Reading (List (List (Option Expr) × List Statement))
  | 0 => failure
  | fuel + 1 => do
      if ← accept "\x7d" then return []
      let chosen ←
        if ← acceptWord "case" then selectors fuel
        else if ← acceptWord "default" then pure [none]
        else failure
      let _ ← accept ":"
      let body ← block fuel
      return (chosen, body) :: (← cases fuel)

end

/-- The attributes that come first. -/
def attributes : Nat → Reading (List Attribute)
  | 0 => failure
  | fuel + 1 => do
      if ← accept "@" then
        match ← take with
        | .word name => do
            let arguments ← if ← accept "(" then row fuel ")" else pure []
            return ⟨name, arguments⟩ :: (← attributes fuel)
        | _ => failure
      else return []

/-- Names with types and commas between them, up to a closing symbol. -/
def typedNames (closing : String) : Nat → Reading (List TypedName)
  | 0 => failure
  | fuel + 1 => do
      if ← accept closing then return []
      let _ ← attributes fuel
      let name ← newName
      expect ":"
      let first : TypedName := ⟨name, ← type fuel⟩
      if ← accept "," then return first :: (← typedNames closing fuel)
      else
        expect closing
        return [first]

/-- A function after the word that introduces it. -/
def function (fuel : Nat) (attributes : List Attribute) : Reading Function := do
  let name ← newName
  expect "("
  let parameters ← typedNames ")" fuel
  let result ← if ← accept "->" then do
      let _ ← Reading.attributes fuel
      pure (some (← type fuel))
    else pure none
  return ⟨attributes, name, parameters, result, ← block fuel⟩

/-- A declaration after its attributes. -/
def declaration (fuel : Nat) (attributes : List Attribute) : Reading Declaration := do
  let ended (d : Declaration) : Reading Declaration := do
    expect ";"
    return d
  match ← take with
  | .word "struct" => do
      let name ← newName
      expect "\x7b"
      return .record name (← typedNames "\x7d" fuel)
  | .word "alias" => do
      let name ← newName
      expect "="
      ended (.alias name (← type fuel))
  | .word "fn" => return .function (← function fuel attributes)
  | .word "const_assert" => do ended (.constAssert (← expression fuel))
  | .word word =>
      if word ∈ ["var", "const", "override"] then
        let (name, type, value) ← nameAndValue fuel
        ended (.global attributes (word = "var") name type value)
      else failure
  | _ => failure

/-- Declarations up to the end. -/
def declarations : Nat → Reading (List Declaration)
  | 0 => failure
  | fuel + 1 => do
      if (← get).isEmpty then return []
      if ← accept ";" then declarations fuel
      else
        let first ← declaration fuel (← attributes fuel)
        return first :: (← declarations fuel)

end Reading

/-- The declarations of a text. -/
def Declaration.list? (text : String) : Option (List Declaration) := do
  let tokens ← Token.list? text
  let (list, _) ← (Reading.declarations (16 * tokens.length + 16)).run tokens
  return list

end FieldGraph.Wgsl
