import FieldGraph.Number.Notation

/-!
# Log records

What happens is recorded as a level, a message and named values. How records are written is
for whoever receives them.
-/

namespace FieldGraph

/-- How important a record is. -/
inductive Level where
  | debug
  | info
  | warn
  | error
  deriving DecidableEq, Repr

namespace Level

/-- Rank of a level, larger for the more important. -/
def rank : Level → Nat
  | debug => 0
  | info => 1
  | warn => 2
  | error => 3

/-- The word for a level. -/
def name : Level → String
  | debug => "DEBUG"
  | info => "INFO"
  | warn => "WARN"
  | error => "ERROR"

end Level

/-- A named value of a record. -/
inductive RecordValue where
  | text (s : String)
  | integer (n : Int)
  /-- A double precision number. -/
  | number (x : Binary)
  deriving DecidableEq, Repr

/-- A value written without quoting. -/
def RecordValue.plain : RecordValue → String
  | text s => s
  | integer n => toString n
  | number x => String.ofList (Notation.message.chars .double x)

/-- One record. -/
structure Record where
  level : Level
  message : String
  values : List (String × RecordValue) := []
  deriving DecidableEq, Repr

/-- A record on one line without quoting. -/
def Record.line (r : Record) : String :=
  " ".intercalate (r.level.name :: r.message :: r.values.map fun (key, value) =>
    key ++ "=" ++ value.plain)

end FieldGraph
