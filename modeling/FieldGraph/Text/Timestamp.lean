/-!
# Times as text

A time is a number of milliseconds since the start of 1970 and is written as a date and a time of
day without a time zone shift. Years are counted from March, so that the leap day comes last and
days fall into cycles of four hundred years.
-/

namespace FieldGraph.Text

/-- A number with leading zeros. -/
def padded (width n : Nat) : String :=
  let digits := Nat.toDigits 10 n
  String.ofList (List.replicate (width - digits.length) '0' ++ digits)

/-- Days from the first of March of year zero to the start of 1970. -/
def epochDays : Nat := 719468

/-- The year, month and day of a day counted from the start of 1970. -/
def civilDate (days : Nat) : Nat × Nat × Nat :=
  let shifted := days + epochDays
  let cycle := shifted / 146097
  let day := shifted % 146097
  let yearOfCycle := (day - day / 1460 + day / 36524 - day / 146096) / 365
  let dayOfYear := day - (365 * yearOfCycle + yearOfCycle / 4 - yearOfCycle / 100)
  let month := (5 * dayOfYear + 2) / 153
  let dayOfMonth := dayOfYear - (153 * month + 2) / 5 + 1
  let year := cycle * 400 + yearOfCycle
  if month < 10 then (year, month + 3, dayOfMonth) else (year + 1, month - 9, dayOfMonth)

/-- A time as a date and a time of day. -/
def timestamp (milliseconds : Nat) : String :=
  let seconds := milliseconds / 1000
  let (year, month, day) := civilDate (seconds / 86400)
  let time := seconds % 86400
  padded 4 year ++ "-" ++ padded 2 month ++ "-" ++ padded 2 day ++ "T" ++
    padded 2 (time / 3600) ++ ":" ++ padded 2 (time / 60 % 60) ++ ":" ++ padded 2 (time % 60) ++
    "." ++ padded 3 (milliseconds % 1000) ++ "Z"

end FieldGraph.Text
