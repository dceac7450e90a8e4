import FieldGraph.Text.Cluster

/-!
# Places in a source text

Lines and columns count from one. A column is what a reader sees as one character, so a
position advances over a piece of text by its grapheme clusters. Spans are half open.
-/

namespace FieldGraph.Config

/-- A place between two characters. -/
structure Position where
  line : Nat := 1
  column : Nat := 1
  /-- Number of bytes before it. -/
  byte : Nat := 0
  deriving DecidableEq, Repr

/-- Number of bytes of some characters. -/
def byteCount (text : List Char) : Nat := text.foldl (fun n c => n + c.utf8Size) 0

/-- The place after a piece of text. A line ends at a line feed; the columns after the last line
end are those of the rest of the piece. -/
def Position.after (p : Position) (text : List Char) : Position :=
  let ends := text.count '\n'
  let rest := (text.reverse.takeWhile (· ≠ '\n')).reverse
  { line := p.line + ends
    column := if ends = 0 then p.column + Text.clusterCount text else 1 + Text.clusterCount rest
    byte := p.byte + byteCount text }

/-- A piece of a source text. -/
structure Span where
  start : Position := {}
  stop : Position := {}
  deriving DecidableEq, Repr

namespace Span

/-- From the start of one span to the end of another. -/
def cover (first last : Span) : Span := ⟨first.start, last.stop⟩

/-- How messages show a span of a file. -/
def text (file : String) (s : Span) : String :=
  let start := toString s.start.line ++ "," ++ toString s.start.column
  let stop :=
    if s.start.line = s.stop.line then toString s.stop.column
    else toString s.stop.line ++ "," ++ toString s.stop.column
  file ++ ":" ++ start ++ "-" ++ stop

end Span

end FieldGraph.Config
