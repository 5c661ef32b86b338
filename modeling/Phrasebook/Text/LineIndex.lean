import Phrasebook.Bisection
import Phrasebook.Text.Bytes

/-!
# Phrasebook.Text.LineIndex

From byte offsets to lines and columns.

1. Lines and columns count from zero.  A line ends with its line feed; a column counts characters.
2. An offset beyond the end of the text stands for the end, one inside a character for the start of
   that character.
3. The index holds the offset at which each line starts, in ascending order.  The line of an offset
   is the last one that starts at or before it, found by bisection.
-/

namespace Phrasebook.Text

/-- A place in a text: line and column, both from zero. -/
structure Position where
  line : Nat
  column : Nat
  deriving DecidableEq, Repr

/-- The offsets just behind the line feeds of a text that starts at `offset`. -/
def lineStartsFrom (offset : Nat) : List Char → List Nat
  | [] => []
  | c :: rest =>
    let next := offset + c.utf8Size
    if c = '\n' then next :: lineStartsFrom next rest else lineStartsFrom next rest

/-- A text with the offsets at which its lines start. -/
structure LineIndex where
  source : List Char
  starts : Array Nat

namespace LineIndex

/-- The index of a text. -/
def ofChars (source : List Char) : LineIndex :=
  ⟨source, (0 :: lineStartsFrom 0 source).toArray⟩

/-- The index of a text. -/
def ofString (source : String) : LineIndex := ofChars source.toList

/-- The nearest character boundary at or before an offset. -/
def clamp (x : LineIndex) (offset : Nat) : Nat := byteSize (takeBytes offset x.source)

/-- The line on which an offset lies. -/
def line (x : LineIndex) (offset : Nat) : Nat :=
  bisect (fun i => x.starts.getD i 0 ≤ x.clamp offset) 0 x.starts.size - 1

/-- The line and column of an offset. -/
def position (x : LineIndex) (offset : Nat) : Position :=
  let line := x.line offset
  ⟨line, (dropBytes (x.starts.getD line 0) (takeBytes offset x.source)).length⟩

/-- The text of the `length` bytes from `offset` on. -/
def slice (x : LineIndex) (offset length : Nat) : List Char :=
  (takeBytes (offset + length) x.source).drop (takeBytes offset x.source).length

/-- The number of characters in the `length` bytes from `offset` on. -/
def charCount (x : LineIndex) (offset length : Nat) : Nat := (x.slice offset length).length

end LineIndex

end Phrasebook.Text
