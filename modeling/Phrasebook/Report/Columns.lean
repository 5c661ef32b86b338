import Phrasebook.Report.Excerpt
import Phrasebook.Text.Width.Unicode15

/-!
# Phrasebook.Report.Columns

Where the characters of a line stand on the screen.

A tab reaches to the next multiple of four columns.  A terminal escape sequence, from the escape
character to the letter `m`, takes no column.
-/

namespace Phrasebook.Report

open Text

/-- The columns between two tab stops. -/
def tabWidth : Nat := 4

/-- The columns that each character of a line takes, where `column` are taken so far and `escaped`
says that an escape sequence is open. -/
def columnWidths (column : Nat) (escaped : Bool) : List Char → List Nat
  | [] => []
  | c :: rest =>
    if escaped then 0 :: columnWidths column (c != 'm') rest
    else if c = '\x1b' then 0 :: columnWidths column true rest
    else
      let w := if c = '\t' then tabWidth - column % tabWidth else unicode15Widths.width c
      w :: columnWidths (column + w) false rest

/-- The columns that the characters of a line take together. -/
def columnsOf (s : List Char) : Nat := (columnWidths 0 false s).foldr (· + ·) 0

/-- The characters that are needed to cover the first `n` bytes. -/
def coverBytes (n : Nat) : List Char → List Char
  | [] => []
  | c :: rest => if n = 0 then [] else c :: coverBytes (n - c.utf8Size) rest

/-- The column at which a span starts that starts at a byte of a line. -/
def startColumn (line : SourceLine) (offset : Nat) : Nat :=
  let index := offset - line.offset
  if byteSize line.text < index then columnsOf line.text + 1
  else columnsOf (takeBytes index line.text)

/-- The column behind a span that ends before a byte of a line. -/
def stopColumn (line : SourceLine) (offset : Nat) : Nat :=
  let index := offset - line.offset
  if byteSize line.text < index then columnsOf line.text + 1
  else columnsOf (coverBytes index line.text)

/-- A line with its tabs as spaces. -/
def expandTabs (s : List Char) : List Char :=
  (s.zip (columnWidths 0 false s)).flatMap fun (c, w) =>
    if c = '\t' then List.replicate w ' ' else [c]

end Phrasebook.Report
