/-!
# Sets of characters

A set of code points is given by the points at which membership changes, in ascending order. A
code point belongs to it when an odd number of change points is at most the code point.
-/

namespace FieldGraph.Text

/-- Membership in a set given by its change points. -/
def inRuns : List Nat → Nat → Bool
  | [], _ => false
  | [low], code => low ≤ code
  | low :: high :: rest, code => low ≤ code && (code < high || inRuns rest code)

end FieldGraph.Text
