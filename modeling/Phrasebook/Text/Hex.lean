/-!
# Phrasebook.Text.Hex

Hexadecimal digits, in both directions.
-/

namespace Phrasebook.Text

/-- Whether a character is an ASCII hexadecimal digit, of either case. -/
def isHexDigit (c : Char) : Bool :=
  c.isDigit || ('a' ≤ c && c ≤ 'f') || ('A' ≤ c && c ≤ 'F')

/-- The value of a hexadecimal digit. -/
def hexDigitValue (c : Char) : Nat :=
  if c.isDigit then c.toNat - '0'.toNat
  else if 'a' ≤ c then c.toNat - 'a'.toNat + 10
  else c.toNat - 'A'.toNat + 10

/-- The number that hexadecimal digits write, the most significant one first. -/
def hexValue (digits : List Char) : Nat := digits.foldl (fun n c => 16 * n + hexDigitValue c) 0

/-- A number in small hexadecimal digits, with zeros in front up to `width` digits. -/
def hexPadded (width n : Nat) : List Char :=
  let digits := Nat.toDigits 16 n
  List.replicate (width - digits.length) '0' ++ digits

/-- A number in capital hexadecimal digits, with zeros in front up to `width` digits. -/
def hexPaddedUpper (width n : Nat) : List Char := (hexPadded width n).map Char.toUpper

end Phrasebook.Text
