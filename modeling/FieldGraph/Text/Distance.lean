/-!
# Similar names

The distance of two texts is the least number of characters to insert, delete or exchange to
get from one to the other. A name close to a misspelt one was perhaps meant.
-/

namespace FieldGraph.Text

/-- One row of the distance table from the row before, for one more character of the first text.
`corner` and `left` are the entries diagonally and directly before the next one. -/
def distanceRow (c : Char) (corner left : Nat) : List Char → List Nat → List Nat
  | d :: rest, above :: row =>
      let entry := min (min (above + 1) (left + 1)) (if c = d then corner else corner + 1)
      entry :: distanceRow c above entry rest row
  | _, _ => []

/-- The table's row after all of a text. The head counts the characters read. -/
def distanceRows (target : List Char) : (read : Nat) → List Nat → List Char → List Nat
  | _, row, [] => row
  | read, row, c :: rest =>
      distanceRows target (read + 1) (distanceRow c read (read + 1) target row) rest

/-- The distance of two texts. -/
def distance (a b : String) : Nat :=
  let target := b.toList
  let row := (List.range target.length).map (· + 1)
  (distanceRows target 0 row a.toList).getLast?.getD a.length

/-- A name that is less than three changes away. -/
def similar? (given : String) (names : List String) : Option String :=
  names.find? fun name => distance given name < 3

end FieldGraph.Text
