/-!
# Scratch buffers

A buffer serves for one text after the other. It is reset to its start and written over, and what an
earlier, longer text has left behind the current one stays where it is.
-/

namespace FieldGraph.Shader

/-- Cells of which the first ones hold the current text. -/
structure Scratch where
  cells : List Char := []
  /-- How many cells the current text takes. -/
  used : Nat := 0
  used_le : used ≤ cells.length := by decide
  deriving DecidableEq, Repr

namespace Scratch

/-- Start over, with no text. -/
def reset (b : Scratch) : Scratch := { b with used := 0, used_le := Nat.zero_le _ }

/-- Write behind the current text, over whatever is there. -/
def append (b : Scratch) (text : String) : Scratch where
  cells := b.cells.take b.used ++ text.toList ++ b.cells.drop (b.used + text.length)
  used := b.used + text.length
  used_le := by
    rw [List.length_append, List.length_append, List.length_take_of_le b.used_le,
      String.length_toList]
    exact Nat.le_add_right _ _

/-- The current text. -/
def text (b : Scratch) : String := String.ofList (b.cells.take b.used)

@[simp] theorem text_reset (b : Scratch) : b.reset.text = "" := rfl

/-- Nothing of an earlier text shows in what is written. -/
@[simp] theorem text_append (b : Scratch) (text : String) :
    (b.append text).text = b.text ++ text := by
  have hlength : (b.cells.take b.used ++ text.toList).length = b.used + text.length := by
    rw [List.length_append, List.length_take_of_le b.used_le, String.length_toList]
  have htake : (b.append text).cells.take (b.append text).used =
      b.cells.take b.used ++ text.toList := List.take_left' hlength
  rw [Scratch.text, htake, String.ofList_append, String.ofList_toList]
  rfl

/-- Texts written one after the other are joined. -/
theorem text_foldl_append (b : Scratch) (texts : List String) :
    (texts.foldl append b).text = b.text ++ String.join texts := by
  induction texts generalizing b with
  | nil => simp
  | cons first rest ih =>
    rw [List.foldl_cons, ih, text_append, String.join_cons, String.append_assoc]

end Scratch

end FieldGraph.Shader
