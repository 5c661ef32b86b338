import Phrasebook.Text.CodeSet

/-!
# Phrasebook.Text.Width

How many columns of a terminal a character takes: none for controls and for marks that attach to
another character, two for the wide characters of East Asia and for emoji, one for the rest. The
Khmer sign beyyal alone takes three.

Which characters are marks and which are wide is told by a table, and editions of Unicode differ in
it.
-/

namespace Phrasebook.Text

/-- The characters that do not take one column. -/
structure WidthTable where
  /-- Code points that take no column. -/
  zero : CodeSet
  /-- Code points that take two columns. -/
  double : CodeSet

/-- The columns that a character takes. -/
def WidthTable.width (table : WidthTable) (c : Char) : Nat :=
  if table.zero.contains c then 0
  else if table.double.contains c then 2
  else if c.val = 0x17D8 then 3
  else 1

end Phrasebook.Text
