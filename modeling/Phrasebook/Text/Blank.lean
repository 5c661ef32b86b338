import Phrasebook.Text.CodeSet

/-!
# Phrasebook.Text.Blank

Blank characters (the Unicode property `White_Space`), and trimming them from the ends of a text.

1. `trim` drops blanks at both ends and nothing else;
2. a text is `blank` when it holds blanks alone.
-/

namespace Phrasebook.Text

/-- Code points with the property `White_Space`. -/
def blanks : CodeSet where
  bounds := [
    0x9, 0xE, 0x20, 0x21, 0x85, 0x86, 0xA0, 0xA1, 0x1680, 0x1681, 0x2000, 0x200B, 0x2028, 0x202A,
    0x202F, 0x2030, 0x205F, 0x2060, 0x3000, 0x3001]

/-- Whether a character is blank. -/
def isBlank (c : Char) : Bool := blanks.contains c

/-- A text without the blanks at its start. -/
def trimStart (s : List Char) : List Char := s.dropWhile isBlank

/-- A text without the blanks at its end. -/
def trimEnd (s : List Char) : List Char := (trimStart s.reverse).reverse

/-- A text without the blanks at its two ends. -/
def trim (s : List Char) : List Char := trimEnd (trimStart s)

/-- Whether a text holds nothing but blanks. -/
def blank (s : List Char) : Bool := s.all isBlank

theorem blank_eq_true_iff {s : List Char} : blank s = true ↔ ∀ c ∈ s, isBlank c = true :=
  List.all_eq_true

theorem blank_eq_false_iff {s : List Char} : blank s = false ↔ ∃ c ∈ s, isBlank c = false := by
  rw [blank, List.all_eq_false]
  simp

end Phrasebook.Text
