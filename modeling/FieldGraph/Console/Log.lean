import FieldGraph.Console.Options
import FieldGraph.Text.Blank

/-!
# Writing log records

A record is written on one line, as words with values or as an object. Values are quoted only
where they have to be. A time, if there is one, comes first.
-/

namespace FieldGraph.Console

/-- Whether a value has to be quoted: if it is empty, has a blank, an equals sign or a quote, or
characters that do not print. A backslash alone need not be, nor the delete character. -/
def needsQuotes (s : String) : Bool :=
  s.isEmpty || s.toList.any fun c =>
    if c.toNat < 128 then c.toNat < 33 || c == '=' || c == '"'
    else Text.isBlank c || !Text.isPrintable c || c == '\ufffd'

/-- A value in quotes if it has to be. -/
def quoteIfNeeded (s : String) : String := if needsQuotes s then Text.quote s else s

/-- How a character stands in a quoted value of an object. -/
def escapeChar (c : Char) : List Char :=
  if c = '"' then ['\\', '"']
  else if c = '\\' then ['\\', '\\']
  else if c = '\n' then ['\\', 'n']
  else if c = '\r' then ['\\', 'r']
  else if c = '\t' then ['\\', 't']
  else if c.toNat < 32 ∨ c = '\u2028' ∨ c = '\u2029' then '\\' :: 'u' :: Text.hexChars 4 c.toNat
  else [c]

/-- A text as a value of an object. -/
def objectText (s : String) : String :=
  String.ofList ('"' :: (s.toList.flatMap escapeChar ++ ['"']))

/-- A value as one of an object. Only finite numbers are numbers there. -/
def objectValue : RecordValue → String
  | .text s => objectText s
  | .integer n => toString n
  | .number (.finite s m e) => String.ofList (Notation.record.chars .double (.finite s m e))
  | .number x => objectText ("!ERROR:json: unsupported value: " ++ (RecordValue.number x).plain)

/-- One line for a record. -/
def recordLine (format : LogFormat) (time : Option String) (r : Record) : String :=
  let values : List (String × RecordValue) :=
    (time.toList.map fun t => ("time", .text t)) ++
      ("level", .text r.level.name) :: ("msg", .text r.message) :: r.values
  match format with
  | .text =>
      " ".intercalate (values.map fun (key, value) => key ++ "=" ++ quoteIfNeeded value.plain) ++
        "\n"
  | .json =>
      "\x7b" ++ ",".intercalate (values.map fun (key, value) =>
        objectText key ++ ":" ++ objectValue value) ++ "\x7d\n"

/-- A log that drops unimportant records. -/
structure Log where
  level : Level
  format : LogFormat
  deriving DecidableEq, Repr

namespace Log

/-- The log of two words; unknown words mean the level of information and plain text. -/
def ofWords (level format : String) : Log :=
  ⟨(levelOfWord? level).getD .info, (LogFormat.ofWord? format).getD .text⟩

/-- Whether a record is important enough. -/
def admits (l : Log) (r : Record) : Bool := l.level.rank ≤ r.level.rank

/-- The line of a record that is important enough, and nothing for others. -/
def write (l : Log) (r : Record) (time : Option String := none) : String :=
  if l.admits r then recordLine l.format time r else ""

end Log

end FieldGraph.Console
