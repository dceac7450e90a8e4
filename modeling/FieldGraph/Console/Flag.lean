import FieldGraph.Console.Numeral
import FieldGraph.Text.Quoted

/-!
# Flags

A flag has a name, the sort of value it takes and a line of help. Flags come before the other
arguments, with one or two hyphens, and two hyphens alone end them. A switch needs no value; other
flags take what follows an equals sign or the next argument.
-/

namespace FieldGraph.Console

/-- The sort of value a flag takes. -/
inductive FlagSort where
  | switch
  | text
  | integer
  | float
  deriving DecidableEq, Repr

/-- A flag that may be given. -/
structure Flag where
  name : String
  sort : FlagSort
  help : String
  /-- How the help shows the value without the flag, if it does. -/
  default : Option String := none
  deriving DecidableEq, Repr

/-- A value given for a flag. -/
inductive FlagValue where
  | switch (on : Bool)
  | text (s : String)
  | integer (n : Int)
  | float (x : Binary)
  deriving DecidableEq, Repr

/-- What is wrong with flags. -/
inductive FlagError where
  | badShape (argument : String)
  | undefined (name : String)
  | valueNeeded (name : String)
  | badSwitch (value name : String)
  | badValue (value name : String) (fault : NumeralFault)
  deriving DecidableEq, Repr

/-- The text of a flag error. -/
def FlagError.message : FlagError → String
  | badShape argument => "bad flag syntax: " ++ argument
  | undefined name => "flag provided but not defined: -" ++ name
  | valueNeeded name => "flag needs an argument: -" ++ name
  | badSwitch value name =>
      "invalid boolean value " ++ Text.quote value ++ " for -" ++ name ++ ": parse error"
  | badValue value name fault =>
      "invalid value " ++ Text.quote value ++ " for flag -" ++ name ++ ": " ++ fault.message

/-- The word for the value in the help. -/
def FlagSort.word : FlagSort → String
  | switch => ""
  | text => " string"
  | integer => " int"
  | float => " float"

namespace Flag

/-- The help of a flag. -/
def usage (f : Flag) : String :=
  let default := match f.default with
    | some value => " (default " ++ value ++ ")"
    | none => ""
  "  -" ++ f.name ++ f.sort.word ++ "\n    \t" ++ f.help ++ default ++ "\n"

/-- Read a value for a flag. -/
def value (f : Flag) (s : String) : Except FlagError FlagValue :=
  let numeral {α : Type} (make : α → FlagValue) : Except NumeralFault α → Except FlagError FlagValue
    | .ok a => .ok (make a)
    | .error fault => .error (.badValue s f.name fault)
  match f.sort with
  | .switch =>
      match readBool? s with
      | some on => .ok (.switch on)
      | none => .error (.badSwitch s f.name)
  | .text => .ok (.text s)
  | .integer => numeral .integer (readInt s)
  | .float => numeral .float (readFloat s)

end Flag

/-- What the flags of a command line amount to. -/
inductive FlagResult where
  /-- Help was asked for. -/
  | help
  | failed (error : FlagError)
  /-- Values in the order given, and the other arguments. -/
  | read (values : List (String × FlagValue)) (arguments : List String)
  deriving DecidableEq, Repr

/-- A name and the value after an equals sign, which is not the first character. -/
def splitValue (name : String) : String × Option String :=
  match name.toList with
  | [] => (name, none)
  | first :: rest =>
      let head := first :: rest.takeWhile (· ≠ '=')
      match name.toList.drop head.length with
      | '=' :: value => (String.ofList head, some (String.ofList value))
      | _ => (name, none)

/-- Remove the hyphens of a flag; other arguments have none. -/
def flagBody? (argument : String) : Option String :=
  match argument.toList with
  | '-' :: '-' :: rest => some (String.ofList rest)
  | '-' :: c :: rest => some (String.ofList (c :: rest))
  | _ => none

/-- Whether what follows the hyphens cannot start a name. -/
def badStart (body : String) : Bool := body.toList.head? ∈ [none, some '-', some '=']

/-- Read flags up to the first other argument. A flag without its value takes the next argument,
whatever that looks like. -/
def readFlags (flags : List Flag) :
    (waiting : Option Flag) → List (String × FlagValue) → List String → FlagResult
  | some flag, _, [] => .failed (.valueNeeded flag.name)
  | none, values, [] => .read values []
  | some flag, values, argument :: rest =>
      match flag.value argument with
      | .ok value => readFlags flags none (values ++ [(flag.name, value)]) rest
      | .error error => .failed error
  | none, values, argument :: rest =>
      match flagBody? argument with
      | none => .read values (argument :: rest)
      | some body =>
          if argument = "--" then .read values rest
          else if badStart body then .failed (.badShape argument)
          else
            let (name, given) := splitValue body
            match flags.find? (·.name == name) with
            | none => if name = "help" ∨ name = "h" then .help else .failed (.undefined name)
            | some flag =>
                match given with
                | some s =>
                    match flag.value s with
                    | .ok value => readFlags flags none (values ++ [(name, value)]) rest
                    | .error error => .failed error
                | none =>
                    if flag.sort = .switch then
                      readFlags flags none (values ++ [(name, .switch true)]) rest
                    else readFlags flags (some flag) values rest

end FieldGraph.Console
