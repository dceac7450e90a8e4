import FieldGraph.Config.Span
import FieldGraph.Text.Quoted

/-!
# Problems in a scene text

Every cause of a rejected text is a constructor; the wording is in one place. A diagnostic is a
problem with the piece of text it is about.
-/

namespace FieldGraph.Config

/-- What can be wrong with a scene text as a piece of the language. -/
inductive Problem where
  /-- An operator on bits, by its symbol. -/
  | bitOperator (symbol : String)
  | backtick
  | apostrophe
  | semicolon
  | curlyQuote
  | strayCharacter
  | splitString
  /-- Something else than an argument or a block. -/
  | itemRequired
  /-- A name with nothing after it that makes it an argument or a block. -/
  | equalsRequired
  | quotedName
  | unclosedBlock
  /-- A second argument of a name, with the place of the first. -/
  | redefined (name : String) (first : Span)
  | newlineAfterArgument
  | commaAfterArgument
  | equalsInHeader
  | newlineInHeader
  | strayInHeader
  | commaInLine
  | newlineInLine
  | strayInLine
  | lineArgumentRequired (name : String)
  | newlineAfterBlock
  | holeInLabel (mark : String)
  | unclosedLabel
  | strayInLabel
  | escapeCut
  | escapeShort
  | escapeLong
  | escapeCode (code : Nat)
  | escapeUnknown (selector : String)
  | invalidExpression
  /-- The text ends where an expression should start. -/
  | missingExpression
  | falseBranchRequired
  | unbalancedParentheses
  | invalidNumber
  | attributeNameRequired
  /-- Two indices read as one number; inside of a splat there is another way to write them. -/
  | chainedIndex (inSplat : Bool) (first second : String)
  | indexNotClosed
  | splatNotClosed
  | splatNested
  | functionNameRequired
  | parenthesisRequired
  | callNotClosed
  | callSeparator
  | expansionNotLast
  | tupleNotClosed
  | tupleSeparator
  | attributeValueRequired
  | keySeparator (named : Bool)
  | objectNotClosed
  | objectSeparator
  /-- A malformed comprehension, with what is wrong. -/
  | comprehension (reason : String)
  | stringNotClosed
  /-- An interpolation that does not end before its file or string does. -/
  | holeNotClosed (container : String)
  | colonInHole
  | strayInHole
  | invalidDirective
  /-- A directive that does not exist, with one that was perhaps meant. -/
  | unknownDirective (name : String) (meant : Option String)
  /-- A malformed loop directive, with what is wrong. -/
  | loopDirective (reason : String)
  | strayInDirective (name : String)
  /-- A directive without the one that ends it, and its place. -/
  | directiveNotClosed (name closing : String) (start : Span)
  /-- A directive that ends nothing. -/
  | directiveUnbalanced (name : String)
  /-- A second alternative of a condition, and the place of the condition. -/
  | alternativeRepeated (start : Span)
  | alternativeOfLoop
  /-- A directive that ends something else than the directive at a place. -/
  | directiveCrossed (name opening : String) (start : Span)
  /-- A name without a value, with a name that was perhaps meant. -/
  | unknownVariable (name : String) (meant : Option String)
  | callNotAllowed
  /-- An operand of the wrong type. -/
  | operand (side reason : String)
  | operation (reason : String)
  /-- Branches of types that have nothing in common, with how they differ. -/
  | branchTypes (difference : String)
  /-- A branch whose value is not of the common type. -/
  | branchValue (branch : Bool) (reason : String)
  | nullCondition
  | conditionType
  | attributeOfNull
  | attributeMissing (name : String)
  | attributeOfPrimitive (type : String)
  /-- A name used on a list of objects; the name if the objects have it. -/
  | attributeOfList (name : Option String)
  | attributeOfOther
  | elementMissing (key : String)
  | indexOfNull
  | index (reason : String)
  | ambiguousKey
  | nullKey
  | keyType (reason : String)
  | nullInString
  | valueInString (reason : String)
  | iterateNull
  | iterateValue (type : String)
  | splatOfNull
  /-- A splat that makes items of different types from those of a list. -/
  | nestedSplat
  | nullInLoop
  | valueInLoop (reason : String)
  /-- A filter that is null whatever the item is. -/
  | filterNull
  | filter (reason : String)
  | comprehensionKey (reason : String)
  | repeatedKey (name : String)
  /-- A value that does not become text. -/
  | unsuitable (reason : String)
  | missingArgument (name : String)
  | unsupportedArgument (name hint : String)
  | unsupportedBlock (type hint : String)
  | unexpectedBlock (type : String)
  /-- A block without a label that it needs. -/
  | missingLabel (label block : String)
  /-- A block with more labels than it may have; the label it may have, if any. -/
  | extraLabel (label : Option String) (block : String)
  deriving DecidableEq, Repr

namespace Problem

/-- A sentence that names what was perhaps meant. -/
def hint : Option String → String
  | some name => " Did you mean " ++ Text.quote name ++ "?"
  | none => ""

/-- The kind of a problem. -/
def summary : Problem → String
  | bitOperator _ => "Unsupported operator"
  | backtick | apostrophe | semicolon | curlyQuote | strayCharacter => "Invalid character"
  | splitString => "Invalid multi-line string"
  | itemRequired | equalsRequired => "Argument or block definition required"
  | quotedName => "Invalid argument name"
  | unclosedBlock => "Unclosed configuration block"
  | redefined _ _ => "Attribute redefined"
  | newlineAfterArgument => "Missing newline after argument"
  | commaAfterArgument => "Unexpected comma after argument"
  | equalsInHeader | newlineInHeader | strayInHeader => "Invalid block definition"
  | commaInLine | newlineInLine | strayInLine => "Invalid single-argument block definition"
  | lineArgumentRequired _ => "Argument definition required"
  | newlineAfterBlock => "Missing newline after block definition"
  | holeInLabel _ | strayInLabel => "Invalid string literal"
  | unclosedLabel => "Unterminated string literal"
  | escapeCut | escapeShort | escapeLong | escapeCode _ | escapeUnknown _ =>
      "Invalid escape sequence"
  | invalidExpression => "Invalid expression"
  | missingExpression => "Missing expression"
  | falseBranchRequired => "Missing false expression in conditional"
  | unbalancedParentheses => "Unbalanced parentheses"
  | invalidNumber => "Invalid number literal"
  | attributeNameRequired => "Invalid attribute name"
  | chainedIndex _ _ _ => "Invalid legacy index syntax"
  | indexNotClosed => "Missing close bracket on index"
  | splatNotClosed => "Missing close bracket on splat index"
  | splatNested => "Nested splat expression not allowed"
  | functionNameRequired => "Missing function name"
  | parenthesisRequired => "Missing open parenthesis"
  | callNotClosed => "Unterminated function call"
  | callSeparator => "Missing argument separator"
  | expansionNotLast => "Missing closing parenthesis"
  | tupleNotClosed => "Unterminated tuple constructor expression"
  | tupleSeparator => "Missing item separator"
  | attributeValueRequired => "Missing attribute value"
  | keySeparator _ => "Missing key/value separator"
  | objectNotClosed => "Unterminated object constructor expression"
  | objectSeparator => "Missing attribute separator"
  | comprehension _ => "Invalid 'for' expression"
  | stringNotClosed => "Unterminated template string"
  | holeNotClosed _ => "Unclosed template interpolation sequence"
  | colonInHole | strayInHole => "Extra characters after interpolation expression"
  | invalidDirective => "Invalid template directive"
  | unknownDirective _ _ => "Invalid template control keyword"
  | loopDirective _ => "Invalid 'for' directive"
  | strayInDirective name => "Extra characters in " ++ name ++ " marker"
  | directiveNotClosed _ _ _ => "Unexpected end of template"
  | directiveUnbalanced name | directiveCrossed name _ _ =>
      "Unexpected " ++ name ++ " directive"
  | alternativeRepeated _ | alternativeOfLoop => "Unexpected else directive"
  | unknownVariable _ _ => "Unknown variable"
  | callNotAllowed => "Function calls not allowed"
  | operand _ _ => "Invalid operand"
  | operation _ => "Operation failed"
  | branchTypes _ | branchValue _ _ => "Inconsistent conditional result types"
  | nullCondition => "Null condition"
  | conditionType => "Incorrect condition type"
  | attributeOfNull => "Attempt to get attribute from null value"
  | attributeMissing _ | attributeOfPrimitive _ | attributeOfList _ | attributeOfOther =>
      "Unsupported attribute"
  | elementMissing _ => "Missing map element"
  | indexOfNull => "Attempt to index null value"
  | index _ => "Invalid index"
  | ambiguousKey => "Ambiguous attribute key"
  | nullKey => "Null value as key"
  | keyType _ => "Incorrect key type"
  | nullInString | valueInString _ | nullInLoop | valueInLoop _ =>
      "Invalid template interpolation value"
  | iterateNull => "Iteration over null value"
  | iterateValue _ => "Iteration over non-iterable value"
  | splatOfNull => "Splat of null value"
  | nestedSplat => "Invalid nested splat expressions"
  | filterNull => "Condition is null"
  | filter _ => "Invalid 'for' condition"
  | comprehensionKey _ => "Invalid object key"
  | repeatedKey _ => "Duplicate object key"
  | unsuitable _ => "Unsuitable value type"
  | missingArgument _ => "Missing required argument"
  | unsupportedArgument _ _ => "Unsupported argument"
  | unsupportedBlock _ _ => "Unsupported block type"
  | unexpectedBlock type => "Unexpected " ++ Text.quote type ++ " block"
  | missingLabel label block => "Missing " ++ label ++ " for " ++ block
  | extraLabel _ block => "Extraneous label for " ++ block

/-- What more there is to say about a problem in a file. -/
def detail (file : String) : Problem → String
  | bitOperator symbol =>
      "Bitwise operators are not supported." ++ match symbol with
        | "&" => " Did you mean boolean AND (\"&&\")?"
        | "|" => " Did you mean boolean OR (\"||\")?"
        | "~" => " Did you mean boolean NOT (\"!\")?"
        | _ => ""
  | backtick =>
      "The \"`\" character is not valid. To create a multi-line string, use the \"heredoc\" " ++
        "syntax, like \"<<EOT\"."
  | apostrophe => "Single quotes are not valid. Use double quotes (\") to enclose strings."
  | semicolon =>
      "The \";\" character is not valid. Use newlines to separate arguments and blocks, and " ++
        "commas to separate items in collection values."
  | curlyQuote =>
      "\"Curly quotes\" are not valid here. These can sometimes be inadvertently introduced " ++
        "when sharing code via documents or discussion forums. It might help to replace the " ++
        "character with a \"straight quote\"."
  | strayCharacter => "This character is not used within the language."
  | splitString =>
      "Quoted strings may not be split over multiple lines. To produce a multi-line string, " ++
        "either use the \\n escape to represent a newline character or use the \"heredoc\" " ++
        "multi-line template syntax."
  | itemRequired => "An argument or block definition is required here."
  | equalsRequired =>
      "An argument or block definition is required here. To set an argument, use the equals " ++
        "sign \"=\" to introduce the argument value."
  | quotedName => "Argument names must not be quoted."
  | unclosedBlock =>
      "There is no closing brace for this block before the end of the file. This may be caused " ++
        "by incorrect brace nesting elsewhere in this file."
  | redefined name first =>
      "The argument " ++ Text.quote name ++ " was already set at " ++ first.text file ++
        ". Each argument may be set only once."
  | newlineAfterArgument => "An argument definition must end with a newline."
  | commaAfterArgument =>
      "Argument definitions must be separated by newlines, not commas. An argument definition " ++
        "must end with a newline."
  | equalsInHeader =>
      "The equals sign \"=\" indicates an argument definition, and must not be used when " ++
        "defining a block."
  | newlineInHeader =>
      "A block definition must have block content delimited by \"\x7b\" and \"\x7d\", starting " ++
        "on the same line as the block header."
  | strayInHeader =>
      "Either a quoted string block label or an opening brace (\"\x7b\") is expected here."
  | commaInLine =>
      "Single-line block syntax can include only one argument definition. To define multiple " ++
        "arguments, use the multi-line block syntax with one argument definition per line."
  | newlineInLine =>
      "An argument definition on the same line as its containing block creates a single-line " ++
        "block definition, which must also be closed on the same line. Place the block's " ++
        "closing brace immediately after the argument definition."
  | strayInLine =>
      "A single-line block definition must end with a closing brace immediately after its " ++
        "single argument definition."
  | lineArgumentRequired name =>
      "A single-line block definition can contain only a single argument. If you meant to " ++
        "define argument " ++ Text.quote name ++ ", use an equals sign to assign it a value. To " ++
        "define a nested block, place it on a line of its own within its parent block."
  | newlineAfterBlock => "A block definition must end with a newline."
  | holeInLabel mark =>
      "Template sequences are not allowed in this string. To include a literal \"" ++ mark ++
        "\", double it (as \"" ++ mark ++ mark ++ "\") to escape it."
  | unclosedLabel => "Unable to find the closing quote mark before the end of the file."
  | strayInLabel => "This item is not valid in a string literal."
  | escapeCut => "Backslash must be followed by an escape sequence selector character."
  | escapeShort => "The \\u escape sequence must be followed by four hexadecimal digits."
  | escapeLong => "The \\U escape sequence must be followed by eight hexadecimal digits."
  | escapeCode code =>
      let width := max 4 (code.log2 / 4 + 1)
      "Cannot encode character U+" ++ Text.hex width code ++ " in UTF-8."
  | escapeUnknown selector =>
      "The symbol " ++ Text.quote selector ++ " is not a valid escape sequence selector."
  | invalidExpression =>
      "Expected the start of an expression, but found an invalid expression token."
  | missingExpression => "Expected the start of an expression, but found the end of the file."
  | falseBranchRequired =>
      "The conditional operator (...?...:...) requires a false expression, delimited by a colon."
  | unbalancedParentheses => "Expected a closing parenthesis to terminate the expression."
  | invalidNumber => "Failed to recognize the value of this number literal."
  | attributeNameRequired => "An attribute name is required after a dot."
  | chainedIndex inSplat first second =>
      "When using the legacy index syntax, chaining two indexes together is not permitted. Use " ++
        "the proper index syntax " ++
        (if inSplat then "with a full splat expression [*] " else "") ++
        "instead, like [" ++ first ++ "][" ++ second ++ "]."
  | indexNotClosed => "The index operator must end with a closing bracket (\"]\")."
  | splatNotClosed =>
      "The star for a full splat operator must be immediately followed by a closing bracket " ++
        "(\"]\")."
  | splatNested =>
      "A splat expression (*) cannot be used inside another attribute-only splat expression."
  | functionNameRequired =>
      "Function scope resolution symbol :: must be followed by a function name in this scope."
  | parenthesisRequired =>
      "Function selector must be followed by an open parenthesis to begin the function call."
  | callNotClosed =>
      "There is no closing parenthesis for this function call before the end of the file. This " ++
        "may be caused by incorrect parenthesis nesting elsewhere in this file."
  | callSeparator => "A comma is required to separate each function argument from the next."
  | expansionNotLast =>
      "An expanded function argument (with ...) must be immediately followed by closing " ++
        "parentheses."
  | tupleNotClosed =>
      "There is no corresponding closing bracket before the end of the file. This may be caused " ++
        "by incorrect bracket nesting elsewhere in this file."
  | tupleSeparator => "Expected a comma to mark the beginning of the next item."
  | attributeValueRequired =>
      "Expected an attribute value, introduced by an equals sign (\"=\")."
  | keySeparator named =>
      "Expected an equals sign (\"=\") to mark the beginning of the attribute value." ++
        if named then
          " If you intended to given an attribute name containing periods or spaces, write the " ++
            "name in quotes to create a string literal."
        else ""
  | objectNotClosed =>
      "There is no corresponding closing brace before the end of the file. This may be caused " ++
        "by incorrect brace nesting elsewhere in this file."
  | objectSeparator =>
      "Expected a newline or comma to mark the beginning of the next attribute."
  | comprehension reason => reason
  | stringNotClosed => "No closing marker was found for the string."
  | holeNotClosed container =>
      "There is no closing brace for this interpolation sequence before the end of the " ++
        container ++ ". This might be caused by incorrect nesting inside the given expression."
  | colonInHole =>
      "Template interpolation doesn't expect a colon at this location. Did you intend this to " ++
        "be a literal sequence to be processed as part of another language? If so, you can " ++
        "escape it by starting with \"$$\x7b\" instead of just \"$\x7b\"."
  | strayInHole =>
      "Expected a closing brace to end the interpolation expression, but found extra characters." ++
        "\n\nThis can happen when you include interpolation syntax for another language, such " ++
        "as shell scripting, but forget to escape the interpolation start token. If this is an " ++
        "embedded sequence for another language, escape it by starting with \"$$\x7b\" instead " ++
        "of just \"$\x7b\"."
  | invalidDirective =>
      "A template directive keyword (\"if\", \"for\", etc) is expected at the beginning of a " ++
        "%\x7b sequence."
  | unknownDirective name meant =>
      Text.quote name ++ " is not a valid template control keyword." ++ hint meant
  | loopDirective reason => reason
  | strayInDirective _ =>
      "Expected a closing brace to end the sequence, but found extra characters."
  | directiveNotClosed name closing start =>
      "The " ++ name ++ " directive at " ++ start.text file ++
        " is missing its corresponding " ++ closing ++ " directive."
  | directiveUnbalanced _ => "The control directives within this template are unbalanced."
  | alternativeRepeated start =>
      "Already in the else clause for the if started at " ++ start.text file ++ "."
  | alternativeOfLoop => "An else clause is not expected for a for directive."
  | directiveCrossed _ "if" start =>
      "Expecting an endif directive for the if started at " ++ start.text file ++ "."
  | directiveCrossed _ _ start =>
      "Expecting an endfor directive corresponding to the for directive at " ++ start.text file ++
        "."
  | unknownVariable name meant =>
      "There is no variable named " ++ Text.quote name ++ "." ++ hint meant
  | callNotAllowed => "Functions may not be called here."
  | operand side reason => "Unsuitable value for " ++ side ++ " operand: " ++ reason ++ "."
  | operation reason => "Error during operation: " ++ reason ++ "."
  | branchTypes difference =>
      "The true and false result expressions must have consistent types. " ++ difference ++ "."
  | branchValue branch reason =>
      "The " ++ (if branch then "true" else "false") ++ " result value has the wrong type: " ++
        reason ++ "."
  | nullCondition =>
      "The condition value is null. Conditions must either be true or false."
  | conditionType => "The condition expression must be of type bool."
  | attributeOfNull => "This value is null, so it does not have any attributes."
  | attributeMissing name =>
      "This object does not have an attribute named " ++ Text.quote name ++ "."
  | attributeOfPrimitive type =>
      "Can't access attributes on a primitive-typed value (" ++ type ++ ")."
  | attributeOfList (some name) =>
      "Can't access attributes on a list of objects. Did you mean to access attribute " ++
        Text.quote name ++ " for a specific element of the list, or across all elements of the " ++
        "list?"
  | attributeOfList none =>
      "Can't access attributes on a list of objects. Did you mean to access an attribute for a " ++
        "specific element of the list, or across all elements of the list?"
  | attributeOfOther => "This value does not have any attributes."
  | elementMissing key =>
      "This map does not have an element with the key " ++ Text.quote key ++ "."
  | indexOfNull => "This value is null, so it does not have any indices."
  | index reason => reason
  | ambiguousKey =>
      "If this expression is intended to be a reference, wrap it in parentheses. If it's " ++
        "instead intended as a literal name containing periods, wrap it in quotes to create a " ++
        "string literal."
  | nullKey => "Can't use a null value as a key."
  | keyType reason => "Can't use this value as a key: " ++ reason ++ "."
  | nullInString =>
      "The expression result is null. Cannot include a null value in a string template."
  | valueInString reason =>
      "Cannot include the given value in a string template: " ++ reason ++ "."
  | iterateNull => "A null value cannot be used as the collection in a 'for' expression."
  | iterateValue type =>
      "A value of type " ++ type ++ " cannot be used as the collection in a 'for' expression."
  | splatOfNull =>
      "Splat expressions (with the * symbol) cannot be applied to null sequences."
  | nestedSplat =>
      "The second level of splat expression produced elements of different types, so it isn't " ++
        "possible to construct a valid list to represent the top-level result.\n\nConsider " ++
        "using a for expression instead, to produce a tuple-typed result which can therefore " ++
        "have non-homogenous element types."
  | nullInLoop =>
      "An iteration result is null. Cannot include a null value in a string template."
  | valueInLoop reason =>
      "Cannot include one of the interpolation results into the string template: " ++ reason ++ "."
  | filterNull => "The value of the 'if' clause must not be null."
  | filter reason => reason
  | comprehensionKey reason => reason
  | repeatedKey name =>
      "Two different items produced the key " ++ Text.quote name ++ " in this 'for' expression. " ++
        "If duplicates are expected, use the ellipsis (...) after the value expression to " ++
        "enable grouping by key."
  | unsuitable reason => "Unsuitable value: " ++ reason
  | missingArgument name =>
      "The argument " ++ Text.quote name ++ " is required, but no definition was found."
  | unsupportedArgument name hint =>
      "An argument named " ++ Text.quote name ++ " is not expected here." ++ hint
  | unsupportedBlock type hint =>
      "Blocks of type " ++ Text.quote type ++ " are not expected here." ++ hint
  | unexpectedBlock _ => "Blocks are not allowed here."
  | missingLabel label block =>
      "All " ++ block ++ " blocks must have 1 labels (" ++ label ++ ")."
  | extraLabel none block => "No labels are expected for " ++ block ++ " blocks."
  | extraLabel (some label) block =>
      "Only 1 labels (" ++ label ++ ") are expected for " ++ block ++ " blocks."

end Problem

/-- A problem and the piece of text it is about. -/
structure Diagnostic where
  problem : Problem
  span : Span
  deriving DecidableEq, Repr

end FieldGraph.Config
