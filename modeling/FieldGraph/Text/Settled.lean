import FieldGraph.Text.Cluster
import FieldGraph.Text.Normal.Basic

/-!
# The start of a text

When only the start of a text is known, its last characters may still change: marks may join them,
and what looks like one character may go on. Up to where nothing of this can happen, the start is
settled.
-/

namespace FieldGraph.Text

/-- Whether a code point may be the first of two that make one character. -/
def isJoined (code : Nat) : Bool :=
  (composedPairs.any fun (_, row) => (valueAfter? (· == code) row).isSome) ||
    ({} : Hangul).isLead code || ({} : Hangul).isVowel code

/-- Whether a character stays as it is whatever stands beside it. -/
def isInert (code : Nat) : Bool :=
  !attaches code && !isJoined code && apart code == [code] && trailingMarks code == 0

/-- What comes before the last segment of a text, which is given by its code points, last first. No
segment may start in it. -/
def beforeLastSegment? (codes : List Nat) : Option (List Nat) :=
  match codes.dropWhile fun code => leadingMarks code != 0 with
  | [] => none
  | _ :: rest => some rest

/-- Characters after which a new cluster starts whatever it is. -/
def isDelimiter (c : Char) : Bool :=
  "-_:;/\\,.()\x7b\x7d[]|?!~ \t@#$%^&*+\"'".contains c

/-- A text without its last cluster, unless that is a delimiter. -/
def withoutLastCluster (text : List Char) : List Char :=
  let last := dropClusters (clusterCount text - 1) text
  match last with
  | [c] => if isDelimiter c then text else text.take (text.length - 1)
  | last => text.take (text.length - last.length)

/-- The start of a text that stays the same whatever follows. -/
def settledStart (text : String) : String :=
  let composed := (compose text).toList
  let codes := (composed.map Char.toNat).reverse
  match if codes.head?.any (!isInert ·) then beforeLastSegment? codes else none with
  | some kept => String.ofList (kept.reverse.map Char.ofNat)
  | none => String.ofList (withoutLastCluster composed)

end FieldGraph.Text
