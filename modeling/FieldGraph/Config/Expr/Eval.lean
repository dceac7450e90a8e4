import FieldGraph.Config.Expr.Basic
import FieldGraph.Config.Value.Access
import FieldGraph.Config.Value.Equal
import FieldGraph.Text.Distance
import FieldGraph.Text.Settled

/-!
# Values of expressions

Evaluation goes on after a problem with an unknown value, so that one expression can have
several problems. A conditional evaluates both branches, but only the problems of the one it
takes count; likewise an operand that decides a logical operation makes the problems of the
other one irrelevant. What is known of an unknown value may still decide a comparison.
-/

namespace FieldGraph.Config

/-- What an expression can refer to. -/
structure Scope where
  /-- The values of names, innermost first. -/
  names : List (String × Value)
  /-- The item of the sequence that a splat goes over. -/
  item : Value := .anything

/-- The names every scene can use. -/
def Scope.standard : Scope := { names := [("pi", .number .pi)] }

/-- A value and the problems met on the way to it. -/
abbrev Outcome := Value × List Diagnostic

/-! ## Operators -/

namespace UnaryOp

/-- The type of operand and result. -/
def type : UnaryOp → ValueType
  | negate => .number
  | not => .bool

/-- The operation on a value of its type. -/
def apply (op : UnaryOp) (v : Value) : Except String Value :=
  match op, v with
  | _, .null _ => .error "argument must not be null"
  | negate, .number n => .ok (.number n.negate)
  | not, .bool b => .ok (.bool !b)
  | op, _ => .ok (.present op.type)

end UnaryOp

namespace BinaryOp

/-- The type both operands are converted to. Equality takes any operands. -/
def operandType : BinaryOp → ValueType
  | or | and => .bool
  | equal | notEqual => .dynamic
  | _ => .number

/-- The type of the result. -/
def resultType : BinaryOp → ValueType
  | add | subtract | multiply | divide | remainder => .number
  | _ => .bool

/-- A number or the reason why there is none. -/
def numberOr (reason : String) : Option Number → Except String Value
  | some n => .ok (.number n)
  | none => .error reason

/-- The operation on two numbers. -/
def applyNumbers (op : BinaryOp) (a b : Number) : Except String Value :=
  match op with
  | add => numberOr "can't compute sum of opposing infinities" (a.add? b)
  | subtract => numberOr "can't subtract infinity from itself" (a.add? b.negate)
  | multiply => numberOr "can't multiply zero by infinity" (a.multiply? b)
  | divide => numberOr "can't divide zero by zero or infinity by infinity" (a.divide? b)
  | remainder => numberOr "can't use modulo with zero and infinity" (a.remainder? b)
  | op => .ok (.present op.resultType)

/-- A truth value, unless it is not known. -/
def truth : Option Bool → Value
  | some b => .bool b
  | none => .present .bool

/-- Whether a number is less than another, unless that depends on what is not known. -/
def less? : Value → Value → Option Bool
  | .number a, .number b => some (a.less b)
  | a, b => a.limits.less? b.limits

/-- Whether a number is less than another or equal to it. Both must be known. -/
def lessEqual? (a b : Value) : Option Bool := do
  let isLess ← less? a b
  let isEqual ← a.equal? b
  return isLess || isEqual

/-- The operation on operands of its type. -/
def apply (op : BinaryOp) (a b : Value) : Except String Value :=
  match op, a, b with
  | equal, a, b => .ok (truth (a.equal? b))
  | notEqual, a, b => .ok (truth ((a.equal? b).map (!·)))
  | _, .null _, _ | _, _, .null _ => .error "argument must not be null"
  | or, .bool a, .bool b => .ok (.bool (a || b))
  | and, .bool a, .bool b => .ok (.bool (a && b))
  | less, a, b => .ok (truth (less? a b))
  | greater, a, b => .ok (truth (less? b a))
  | lessEqual, a, b => .ok (truth (lessEqual? a b))
  | greaterEqual, a, b => .ok (truth (lessEqual? b a))
  | op, .number a, .number b => op.applyNumbers a b
  | op, _, _ => .ok (.present op.resultType)

/-- The truth value that decides a logical operation whatever the other operand is. -/
def decisive? : BinaryOp → Option Bool
  | or => some true
  | and => some false
  | _ => none

/-- The truth value that an operand of a logical operation counts as, if it is known. -/
def operandTruth? : Value → Option Bool
  | .bool b => some b
  | .unknown _ _ => none
  | _ => some false

/-- The outcome of a logical operation that one operand decides. If none does, an unknown operand
stands for the result, of two the left one unless it has problems. -/
def shortCircuit? (op : BinaryOp) (left right : Outcome) : Option Outcome :=
  op.decisive?.bind fun decisive =>
    match operandTruth? left.1, operandTruth? right.1 with
    | none, none => if left.2.isEmpty then some (.present .bool, []) else none
    | some a, b =>
        if a = decisive then some (.bool decisive, left.2)
        else if b = some decisive then some (.bool decisive, right.2)
        else if b = none then some (.present .bool, right.2)
        else none
    | none, some b =>
        if b = decisive then some (.bool decisive, right.2) else some (.present .bool, left.2)

end BinaryOp

namespace Expr

/-- The outcome of an operation after its operands. -/
def conclude (type : ValueType) (problems : List Diagnostic) (span : Span) :
    Except String Value → Outcome
  | .ok v => (v, problems)
  | .error reason => (.ofType type, problems ++ [⟨.operation reason, span⟩])

/-- An operand as a value of a type, with the problem of converting it. -/
def prepare (type : ValueType) (side : String) (span : Span) (v : Value) : Outcome :=
  match v.convert type with
  | .ok v => (v, [])
  | .error reason => (.ofType type, [⟨.operand side reason, span⟩])

/-- The outcome of an operator with one operand. -/
def applyUnary (op : UnaryOp) (operandSpan span : Span) (operand : Outcome) : Outcome :=
  let (v, after) := prepare op.type "unary" operandSpan operand.1
  match operand.2 ++ after with
  | [] => conclude op.type [] span (op.apply v)
  | problems => (.ofType op.type, problems)

/-- The outcome of an operator with two operands. -/
def applyBinary (op : BinaryOp) (leftSpan rightSpan span : Span) (left right : Outcome) :
    Outcome :=
  let (a, before) := prepare op.operandType "left" leftSpan left.1
  let (b, after) := prepare op.operandType "right" rightSpan right.1
  let problems := left.2 ++ right.2
  if !(before ++ after).isEmpty then (.ofType op.resultType, before ++ after ++ problems)
  else match op.shortCircuit? (a, left.2) (b, right.2) with
    | some outcome => outcome
    | none =>
        if problems.isEmpty then conclude op.resultType [] span (op.apply a b)
        else (.ofType op.resultType, problems)

/-! ## Conditionals -/

/-- The type of a conditional. A null that is written out has the type of the other branch. -/
def branchType? : Value → Value → Option ValueType
  | .null .dynamic, b => some b.type
  | a, .null .dynamic => some a.type
  | a, b =>
      if a.type.isDynamic || b.type.isDynamic then some .dynamic
      else ValueType.common? false [a.type, b.type]

/-- The outcome of the branch that a conditional takes, as a value of its type. -/
def takeBranch (type : ValueType) (branch : Bool) (span : Span) (problems : List Diagnostic)
    (outcome : Outcome) : Outcome :=
  match outcome.1.convert type with
  | .ok v => (v, problems ++ outcome.2)
  | .error reason =>
      (.ofType type, problems ++ outcome.2 ++ [⟨.branchValue branch reason, span⟩])

/-- What is known of a conditional of a type that may take either branch. -/
def eitherBranch (type : ValueType) (a b : Value) : Value :=
  let limits := a.limits.either b.limits
  if a.isNull && b.isNull then .null type
  else match a.type, b.type with
    | .primitive .number, .primitive .number | .list _, .list _ | .map _, .map _ =>
        if a.type.same b.type then .within type limits
        else .within type { notNull := limits.notNull }
    | _, _ => .within type { notNull := limits.notNull }

/-- The outcome of a conditional from the places and outcomes of its parts. -/
def choose (conditionSpan trueSpan falseSpan : Span) (condition whenTrue whenFalse : Outcome) :
    Outcome :=
  match branchType? whenTrue.1 whenFalse.1 with
  | none =>
      (.anything, [⟨.branchTypes (whenTrue.1.type.difference whenFalse.1.type),
        trueSpan.cover falseSpan⟩])
  | some type =>
      match condition with
      | (.null _, problems) => (.ofType type, problems ++ [⟨.nullCondition, conditionSpan⟩])
      | (.unknown _ _, problems) => (eitherBranch type whenTrue.1 whenFalse.1, problems)
      | (v, problems) =>
          match v.toBool with
          | .ok (.bool true) => takeBranch type true trueSpan problems whenTrue
          | .ok (.bool false) => takeBranch type false falseSpan problems whenFalse
          | _ => (.ofType type, problems ++ [⟨.conditionType, conditionSpan⟩])

/-! ## Parts -/

/-- Add a step to an outcome that may fail at a place. -/
def andThen (outcome : Outcome) (span : Span) (step : Value → Except Problem Value) : Outcome :=
  match step outcome.1 with
  | .ok v => (v, outcome.2)
  | .error problem => (.anything, outcome.2 ++ [⟨problem, span⟩])

/-- The part that a step leads to. -/
def stepFrom (v : Value) : Step → Except Problem Value
  | .member name _ => v.member name
  | .element key _ => v.element key

/-- The part that some steps lead to. The first step that fails ends the way. -/
def follow (v : Value) : List Step → Outcome
  | [] => (v, [])
  | step :: rest =>
      match stepFrom v step with
      | .ok part => follow part rest
      | .error problem => (.anything, [⟨problem, step.span⟩])

/-- The outcome of a splat over the items of a tuple. -/
def spreadTuple (each : Value → Outcome) (items : List Value) : Outcome :=
  let outcomes := items.map each
  match outcomes.flatMap (·.2) with
  | [] => (.tuple (outcomes.map (·.1)), [])
  | problems =>
      let types := items.map fun item => (each (.ofType item.type)).1.type
      (.ofType (.tuple types), problems)

/-- The outcome of a splat over the items of a list, which must be alike again. The type of the
elements is that of what an unknown item becomes. -/
def spreadList (eachSpan : Span) (each : Value → Outcome) (element : ValueType)
    (items : List Value) : Outcome :=
  let (unknownItem, ds) := each (.ofType element)
  let outcomes := items.map each
  match outcomes.flatMap (·.2), Value.uniform? (outcomes.map (·.1)) with
  | [], some (type, values) =>
      if values.isEmpty then (.list unknownItem.type [], ds) else (.list type values, [])
  | [], none => (.anything, [⟨.nestedSplat, eachSpan⟩])
  | problems, _ => (.ofType (.list unknownItem.type), problems)

/-- The outcome of a splat from what it does with an item. A value that is no sequence is the only
item of one, and null is an empty one. -/
def spread (sourceSpan eachSpan : Span) (each : Value → Outcome) (source : Outcome) : Outcome :=
  match source with
  | (v, []) =>
      match v with
      | .null t =>
          if t.isSequence then (.anything, [⟨.splatOfNull, sourceSpan⟩]) else (.tuple [], [])
      | .unknown .dynamic _ => (.anything, [])
      | .unknown (.list part) limits =>
          let (v, ds) := each (.ofType part)
          let length : Limits := { notNull := true, least := limits.least, most := limits.most }
          (.within (.list v.type) length, ds)
      | .unknown (.tuple types) _ =>
          let outcomes := types.map fun t => each (.ofType t)
          (.present (.tuple (outcomes.map (·.1.type))), outcomes.flatMap (·.2))
      | .list part items => spreadList eachSpan each part items
      | .tuple items => spreadTuple each items
      | v =>
          let (row, ds) := spreadTuple each [v]
          (if v.limits.notNull then row else .anything, ds)
  | (_, problems) => (.anything, problems)

/-! ## Objects and texts -/

/-- The outcome of a key of an object. A bare word is a key by itself. -/
def keyOutcome (key : Expr) (outcome : Outcome) : Outcome :=
  if key.isAmbiguousKey then (.anything, [⟨.ambiguousKey, key.span⟩])
  else match key.bareKey? with
    | some name => (.ofText name, [])
    | none => outcome

/-- An object from the outcomes of its keys and values. -/
def gather : List Expr → List Expr → List Outcome → List Outcome → Bool →
    List (String × Value) → List Diagnostic → Outcome
  | key :: keys, value :: values, k :: ks, (v, es) :: vs, known, fields, problems =>
      let (k, ds) := keyOutcome key k
      let problems := problems ++ ds ++ es
      if !ds.isEmpty then gather keys values ks vs false fields problems
      else match k with
        | .null _ =>
            gather keys values ks vs false fields (problems ++ [⟨.nullKey, value.span⟩])
        | k => match k.toText with
          | .error reason =>
              gather keys values ks vs false fields (problems ++ [⟨.keyType reason, key.span⟩])
          | .ok (.text name) =>
              gather keys values ks vs known (Value.putField name v fields) problems
          | .ok _ => gather keys values ks vs false fields problems
  | _, _, _, _, known, fields, problems =>
      (if known then .object fields else .anything, problems)

/-- A text from the outcomes of its parts. It ends at the first problem or unknown part; without a
problem, the text before an unknown part is the start of the whole. -/
def assemble : List Expr → List Outcome → Bool → String → List Diagnostic → Outcome
  | part :: parts, (v, ds) :: rest, known, text, problems =>
      let problems := problems ++ ds
      match v with
      | .null _ => assemble parts rest known text (problems ++ [⟨.nullInString, part.span⟩])
      | .unknown _ _ => assemble parts rest false text problems
      | v => match v.toText with
        | .ok (.text s) =>
            let text := if known && problems.isEmpty then text ++ s else text
            assemble parts rest known text problems
        | .ok _ => assemble parts rest false text problems
        | .error reason =>
            assemble parts rest known text (problems ++ [⟨.valueInString reason, part.span⟩])
  | _, _, known, text, problems =>
      let start := if problems.isEmpty then Text.settledStart text else ""
      (if known then .ofText text else .within .text { notNull := true, start }, problems)

/-- The texts of a row of values, one after the other. -/
def joinTexts (span : Span) : List Value → String → List Diagnostic → Outcome
  | [], text, problems => (.ofText text, problems)
  | .null _ :: rest, text, problems =>
      joinTexts span rest text (problems ++ [⟨.nullInLoop, span⟩])
  | v :: rest, text, problems =>
      match v.toText with
      | .ok (.text s) => joinTexts span rest (text ++ s) problems
      | .ok _ => (.ofType .text, problems)
      | .error reason => joinTexts span rest text (problems ++ [⟨.valueInLoop reason, span⟩])

/-- The text that the items of a tuple make. -/
def join (span : Span) : Outcome → Outcome
  | (.tuple items, problems) => joinTexts span items "" problems
  | (_, problems) => (.ofType .text, problems)

/-! ## Comprehensions -/

/-- A scope with the names of one item. -/
def ItemNames.bind (names : ItemNames) (scope : Scope) (key value : Value) : Scope :=
  { scope with
    names := (names.value, value) ::
      match names.key with
      | some name => (name, key) :: scope.names
      | none => scope.names }

/-- The truth value of a filter, or the problem of a value that is none. -/
def filterTruth (span : Span) (v : Value) : Except Diagnostic Value :=
  match v.toBool with
  | .ok b => .ok b
  | .error reason =>
      .error ⟨.filter ("The 'if' clause value is invalid: " ++ reason ++ "."), span⟩

/-- The problems of a filter that was tried on unknown items. -/
def trialProblems (span : Span) (trial : Outcome) : List Diagnostic :=
  match trial.1 with
  | .null _ => trial.2 ++ [⟨.filterNull, span⟩]
  | v =>
      match filterTruth span v with
      | .ok _ => trial.2
      | .error d => trial.2 ++ [d]

/-- The items of a collection that a comprehension goes over, or the outcome without them. The
filter is tried once on unknown items, to find problems that do not depend on the items. -/
def comprehend (collectionSpan filterSpan : Span) (collection trial : Outcome) :
    Except Outcome (List (Value × Value) × List Diagnostic) :=
  let (v, ds) := collection
  match v with
  | .null _ => .error (.anything, ds ++ [⟨.iterateNull, collectionSpan⟩])
  | .unknown .dynamic _ => .error (.anything, ds)
  | v =>
      if !v.type.isIterable then
        .error (.anything, ds ++ [⟨.iterateValue v.type.name, collectionSpan⟩])
      else match trialProblems filterSpan trial, v.entries? with
        | [], some entries => .ok (entries, ds)
        | es, _ => .error (.anything, ds ++ es)

/-- One item of a comprehension: its filter, its key if it has one, and its value. -/
structure Item where
  filter : Outcome
  key : Option Outcome
  value : Outcome

/-- What a comprehension has collected. Of the problems that make its result unknown, only the
first is reported. -/
structure Collected where
  known : Bool := true
  values : List (String × Value) := []
  problems : List Diagnostic

namespace Collected

/-- Add problems that do not keep the result from being known. -/
def note (c : Collected) (problems : List Diagnostic) : Collected :=
  { c with problems := c.problems ++ problems }

/-- Give up on the result. -/
def lose (c : Collected) (problems : List Diagnostic) : Collected :=
  { c with known := false, problems := if c.known then c.problems ++ problems else c.problems }

/-- Go on with an item if the filter keeps it. Unless it is strict, the type of a filter that is not
known does not matter. -/
def filtered (c : Collected) (strict : Bool) (span : Span) (item : Item)
    (keep : Collected → Collected) : Collected :=
  let c := c.note item.filter.2
  match item.filter.1 with
  | .null _ => c.lose [⟨.filter "The value of the 'if' clause must not be null.", span⟩]
  | v =>
      if !strict && !v.isKnown then c.lose []
      else match filterTruth span v with
        | .ok (.bool true) => keep c
        | .ok (.bool false) => c
        | .ok _ => c.lose []
        | .error d => c.lose [d]

/-- Add the item of a tuple. -/
def addItem (filterSpan : Span) (c : Collected) (item : Item) : Collected :=
  c.filtered false filterSpan item fun c =>
    { c with values := c.values ++ [("", item.value.1)], problems := c.problems ++ item.value.2 }

/-- Put a value into the group of its key. -/
def putGroup (name : String) (v : Value) (fields : List (String × Value)) :
    List (String × Value) :=
  match fields.lookup name with
  | some (.tuple items) => Value.putField name (.tuple (items ++ [v])) fields
  | _ => Value.putField name (.tuple [v]) fields

/-- Add the entry of an object. -/
def addEntry (grouped : Bool) (filterSpan keySpan : Span) (c : Collected) (item : Item) :
    Collected :=
  c.filtered true filterSpan item fun c =>
    let (k, ds) := item.key.getD (.anything, [])
    let c := c.note ds
    let fault (reason : String) : List Diagnostic := [⟨.comprehensionKey reason, keySpan⟩]
    match k with
    | .null _ =>
        c.lose (fault "Key expression in 'for' expression must not produce a null value.")
    | .unknown _ _ => c.lose []
    | k => match k.toText with
      | .ok (.text name) =>
          let c := c.note item.value.2
          if grouped then { c with values := putGroup name item.value.1 c.values }
          else if (c.values.lookup name).isSome then c.note [⟨.repeatedKey name, keySpan⟩]
          else { c with values := Value.putField name item.value.1 c.values }
      | .ok _ => c.lose []
      | .error reason =>
          c.lose (fault ("The key expression produced an invalid result: " ++ reason ++ "."))

/-- The outcome of what was collected. -/
def outcome (c : Collected) (make : List (String × Value) → Value) : Outcome :=
  (if c.known then make c.values else .anything, c.problems)

end Collected

/-! ## Evaluation -/

mutual

/-- The value of an expression in a scope. -/
def eval (scope : Scope) : Expr → Outcome
  | literal v _ | constant _ v _ => (v, [])
  | path name place steps _ =>
      match scope.names.lookup name with
      | some v => follow v steps
      | none =>
          let meant := Text.similar? name (scope.names.map (·.1))
          (.anything, [⟨.unknownVariable name meant, place⟩])
  | relative source steps _ =>
      let (v, ds) := eval scope source
      let (part, es) := follow v steps
      (part, ds ++ es)
  | element of key _ brackets _ =>
      let (v, ds) := eval scope of
      let (k, es) := eval scope key
      andThen (v, ds ++ es) brackets fun v => v.element k
  | splat source each _ _ =>
      let step := fun item => eval { scope with item } each
      spread source.span each.span step (eval scope source)
  | item _ => (scope.item, [])
  | call _ span => (.anything, [⟨.callNotAllowed, span⟩])
  | unary op operand _ span => applyUnary op operand.span span (eval scope operand)
  | binary op left right span =>
      applyBinary op left.span right.span span (eval scope left) (eval scope right)
  | conditional condition whenTrue whenFalse _ =>
      choose condition.span whenTrue.span whenFalse.span (eval scope condition)
        (eval scope whenTrue) (eval scope whenFalse)
  | tuple items _ _ =>
      let outcomes := evalAll scope items
      (.tuple (outcomes.map (·.1)), outcomes.flatMap (·.2))
  | object keys values _ _ =>
      gather keys values (evalAll scope keys) (evalAll scope values) true [] []
  | listing names collection value filter _ _ =>
      let trial := eval (ItemNames.bind names scope .anything .anything) filter
      match comprehend collection.span filter.span (eval scope collection) trial with
      | .error outcome => outcome
      | .ok (entries, problems) =>
          let items := entries.map fun (k, v) =>
            let inner := ItemNames.bind names scope k v
            (⟨eval inner filter, none, eval inner value⟩ : Item)
          (items.foldl (Collected.addItem filter.span) { problems }).outcome fun values =>
            .tuple (values.map (·.2))
  | mapping names collection key value filter grouped _ _ =>
      let trial := eval (ItemNames.bind names scope .anything .anything) filter
      match comprehend collection.span filter.span (eval scope collection) trial with
      | .error outcome => outcome
      | .ok (entries, problems) =>
          let items := entries.map fun (k, v) =>
            let inner := ItemNames.bind names scope k v
            (⟨eval inner filter, some (eval inner key), eval inner value⟩ : Item)
          (items.foldl (Collected.addEntry grouped filter.span key.span) { problems }).outcome
            .object
  | template parts _ => assemble parts (evalAll scope parts) true "" []
  | joined items => join items.span (eval scope items)
  | quoted inner _ | enclosed inner _ => eval scope inner

/-- The values of a row of expressions. -/
def evalAll (scope : Scope) : List Expr → List Outcome
  | [] => []
  | e :: rest => eval scope e :: evalAll scope rest

end

end Expr

end FieldGraph.Config
