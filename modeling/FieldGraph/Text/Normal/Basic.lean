import FieldGraph.Text.Normal.Marks
import FieldGraph.Text.Normal.Pairs
import FieldGraph.Text.Normal.Singles
import FieldGraph.Text.Normal.Variants

/-!
# Composed texts

The same text can be spelled in several ways: a letter with an accent is one character or two, and
accents at different places may come in any order. The composed spelling is found segment by
segment. A segment is a letter and what may join it; its characters are taken apart, the marks among
them are ordered by their classes, and what makes one character is put together. Syllables of Hangul
are taken apart and put together by arithmetic.

A run of more than thirty marks is divided by a character that joins nothing, so that the work on
one segment stays bounded.
-/

namespace FieldGraph.Text

/-! ## Syllables -/

/-- Arithmetic of Hangul syllables: where they, their leading consonants, vowels and trailing
consonants begin, and how many there are of each. A trailing consonant may be absent. -/
structure Hangul where
  base : Nat := 0xac00
  leads : Nat := 0x1100
  vowels : Nat := 0x1161
  tails : Nat := 0x11a7
  leadCount : Nat := 19
  vowelCount : Nat := 21
  tailCount : Nat := 28

namespace Hangul

/-- How many syllables there are. -/
def count (h : Hangul) : Nat := h.leadCount * h.vowelCount * h.tailCount

/-- The parts of a syllable, if a code point is one. -/
def parts? (h : Hangul) (code : Nat) : Option (List Nat) :=
  if h.base ≤ code ∧ code < h.base + h.count then
    let index := code - h.base
    let tail := index % h.tailCount
    let opened := [h.leads + index / (h.vowelCount * h.tailCount),
      h.vowels + index / h.tailCount % h.vowelCount]
    some (if tail = 0 then opened else opened ++ [h.tails + tail])
  else none

/-- Whether a code point is a leading consonant of a syllable. -/
def isLead (h : Hangul) (code : Nat) : Bool :=
  h.leads ≤ code && code < h.leads + h.leadCount

/-- Whether a code point is a vowel of a syllable. -/
def isVowel (h : Hangul) (code : Nat) : Bool :=
  h.vowels ≤ code && code < h.vowels + h.vowelCount

/-- Whether a code point is a trailing consonant of a syllable, or stands for its absence. -/
def isTail (h : Hangul) (code : Nat) : Bool :=
  h.tails ≤ code && code < h.tails + h.tailCount

/-- Whether a code point is in the block of leading consonants, vowels and trailing consonants. -/
def isPart (_ : Hangul) (code : Nat) : Bool := 0x1100 ≤ code && code < 0x1200

/-- The syllable of a leading consonant and a vowel, or of an open syllable and a trailing
consonant. -/
def join? (h : Hangul) (first second : Nat) : Option Nat :=
  if h.isLead first && h.isVowel second then
    some (h.base + ((first - h.leads) * h.vowelCount + (second - h.vowels)) * h.tailCount)
  else if h.base ≤ first && first < h.base + h.count && (first - h.base) % h.tailCount == 0 &&
      h.isTail second && second != h.tails then
    some (first + (second - h.tails))
  else none

end Hangul

/-! ## Taking apart -/

/-- The value after the first key of a row of keys and values that passes a test. -/
def valueAfter? (test : Nat → Bool) : List Nat → Option Nat
  | k :: v :: rest => if test k then some v else valueAfter? test rest
  | _ => none

/-- The key before a value in a row of keys and values. -/
def keyBefore? (value : Nat) : List Nat → Option Nat
  | k :: v :: rest => if v = value then some k else keyBefore? value rest
  | _ => none

/-- The pair of a table that a code point stands for. -/
def pairOf? (table : List (Nat × List Nat)) (code : Nat) : Option (Nat × Nat) :=
  table.findSome? fun (second, row) => (keyBefore? code row).map fun first => (first, second)

/-- What a code point stands for when it exists twice. -/
def replacement? (code : Nat) : Option Nat :=
  if 0xf900 ≤ code ∧ code < 0x2f800 then
    firstIdeographs[code - 0xf900]?.filter (· ≠ code)
  else if 0x2f800 ≤ code then secondIdeographs[code - 0x2f800]?
  else valueAfter? (· == code) replacedPairs

/-- How often a character can be taken apart one after the other. -/
def deepest : Nat := 4

/-- Take a code point apart, at most so many times. -/
def takeApart : Nat → Nat → List Nat
  | 0, code => [code]
  | depth + 1, code =>
      match replacement? code, pairOf? composedPairs code, pairOf? partedPairs code with
      | some other, _, _ => takeApart depth other
      | none, some (first, second), _ | none, none, some (first, second) =>
          takeApart depth first ++ [second]
      | none, none, none => [code]

/-- Code points below have no marks, and none of them stands for others that stay apart. -/
def leastMark : Nat := 0x300

/-- The parts of a code point. -/
def apart (code : Nat) : List Nat :=
  if code < 0xc0 then [code]
  else match ({} : Hangul).parts? code with
    | some parts => parts
    | none => takeApart deepest code

/-! ## Marks -/

/-- Whether a code point may be the second of two that make one character. -/
def joins (code : Nat) : Bool :=
  (composedPairs.lookup code).isSome || ({} : Hangul).isVowel code || ({} : Hangul).isTail code

/-- Whether a code point attaches to the one before it. -/
def attaches (code : Nat) : Bool := combiningClass code != 0 || joins code

/-- How many marks a character starts with. -/
def leadingMarks (code : Nat) : Nat :=
  if inRuns markVariants code then 1 else ((apart code).takeWhile attaches).length

/-- How many marks a character ends in. -/
def trailingMarks (code : Nat) : Nat :=
  if inRuns markVariants code || inRuns markedVariants code then 1
  else if inRuns twiceMarkedVariants code then 2
  else ((apart code).reverse.takeWhile attaches).length

/-! ## Putting together -/

/-- The character that two make. Only the last sixteen bits of the first code point count, so a
character far out may stand for one of the first plane. -/
def joined? (first second : Nat) : Option Nat :=
  (composedPairs.lookup second).bind (valueAfter? fun code => code % 0x10000 == first % 0x10000)

/-- A segment while it is put together. -/
structure Joining where
  /-- Characters that nothing joins any more, the last one first. -/
  done : List Nat := []
  /-- The character that others may join. -/
  base : Nat
  /-- Characters after it that did not join it, the last one first. -/
  kept : List Nat := []

namespace Joining

/-- The last character so far. -/
def last (s : Joining) : Nat := s.kept.headD s.base

/-- All characters so far. -/
def codes (s : Joining) : List Nat := s.done.reverse ++ s.base :: s.kept.reverse

/-- If the last character is no mark, it is the one that others may join. -/
def moveOn (s : Joining) : Joining :=
  match s.kept with
  | [] => s
  | last :: rest =>
      if combiningClass last = 0 then ⟨rest ++ s.base :: s.done, last, []⟩ else s

/-- Whether a character reaches the base: the last mark before it is of a lower class. -/
def reaches (s : Joining) (code : Nat) : Bool :=
  s.kept.isEmpty || combiningClass s.last < combiningClass code

/-- Join a character to the base if both make one. -/
def tryJoin (s : Joining) (join? : Nat → Nat → Option Nat) (code : Nat) : Joining :=
  let s := s.moveOn
  match if s.reaches code then join? s.base code else none with
  | some whole => { s with base := whole }
  | none => { s with kept := code :: s.kept }

/-- Add the characters of a segment. From the first part of a syllable on, only syllables are put
together; before it, characters that never join are passed over. -/
def addAll : (syllables : Bool) → Joining → List Nat → Joining
  | _, s, [] => s
  | syllables, s, code :: rest =>
      if syllables || ({} : Hangul).isPart code then
        addAll true (s.tryJoin ({} : Hangul).join? code) rest
      else if joins code then addAll false (s.tryJoin joined? code) rest
      else addAll false { s with kept := code :: s.kept } rest

end Joining

/-- The composed spelling of a segment that is given with its last character first. -/
def composeSegment (segment : List Nat) : List Nat :=
  match segment.reverse with
  | [] => []
  | base :: rest => (Joining.addAll false { base } rest).codes

/-! ## Segments -/

/-- Put a character into a segment that is given with its last character first: a mark stands before
the marks of later classes, other characters stand last. -/
def insertMark (code : Nat) : List Nat → List Nat
  | [] => [code]
  | last :: rest =>
      if combiningClass code ≠ 0 ∧ combiningClass code < combiningClass last then
        last :: insertMark code rest
      else code :: last :: rest

/-- Put the parts of a character into a segment. A part that does not attach ends the segment; the
first list is the spelling of what has ended. -/
def insertParts (segment : List Nat) : List Nat → List Nat × List Nat
  | [] => ([], segment)
  | part :: parts =>
      if attaches part || segment.isEmpty then insertParts (insertMark part segment) parts
      else
        let (spelling, later) := insertParts [part] parts
        (composeSegment segment ++ spelling, later)

/-- Put a character into a segment. -/
def insertCharacter (code : Nat) (segment : List Nat) : List Nat × List Nat :=
  match apart code with
  | [single] => ([], insertMark single segment)
  | parts => insertParts segment parts

/-- The longest run of marks. -/
def longestRun : Nat := 30

/-- The character that joins nothing. -/
def divider : Nat := 0x34f

/-- The composed spelling of a segment and the code points after it, where the segment ends in a run
of so many marks. -/
def composeFrom (run : Nat) (segment : List Nat) : List Nat → List Nat
  | [] => composeSegment segment
  | code :: rest =>
      let leading := leadingMarks code
      if leading ≠ 0 ∧ run + leading ≤ longestRun then
        let (spelling, segment) := insertCharacter code segment
        spelling ++ composeFrom (run + leading) segment rest
      else
        let ended := if leading = 0 then segment else divider :: segment
        let (spelling, segment) := insertCharacter code []
        let run := if leading = 0 then trailingMarks code else leading
        composeSegment ended ++ spelling ++ composeFrom run segment rest

/-- The composed spelling of a text. -/
def compose (text : String) : String :=
  if text.toList.all fun c => c.toNat < leastMark then text
  else String.ofList ((composeFrom 0 [] (text.toList.map Char.toNat)).map Char.ofNat)

end FieldGraph.Text
