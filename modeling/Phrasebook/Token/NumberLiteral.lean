import Phrasebook.Binary64

/-!
# Phrasebook.Token.NumberLiteral

Number literals: a minus sign if any, digits, a point and digits if any, and an exponent if any.

The digits behind the point may be missing, as in `1.`.  The digits of the exponent may be missing
from the text too, but such a literal has no value.
-/

namespace Phrasebook

/-- The parts of a number literal, as they stand in the text. -/
structure NumberLiteral where
  negative : Bool
  /-- The digits before the point. -/
  whole : List Char
  /-- The digits behind the point; none if there is no point. -/
  fraction : List Char
  /-- Whether the exponent is negative, and its digits. -/
  exponent : Option (Bool × List Char)
  deriving DecidableEq, Repr

namespace NumberLiteral

/-- The number that decimal digits write, the most significant one first. -/
def decimalValue (digits : List Char) : Nat :=
  digits.foldl (fun n c => 10 * n + (c.toNat - '0'.toNat)) 0

/-- The digits at the front of a text, and the text behind them. -/
def spanDigits (s : List Char) : List Char × List Char :=
  (s.takeWhile Char.isDigit, s.dropWhile Char.isDigit)

/-- The digits behind a point, if a point comes next. -/
def scanFraction : List Char → List Char × List Char
  | '.' :: s => spanDigits s
  | s => ([], s)

/-- The sign of an exponent, if one comes next. -/
def scanSign : List Char → Bool × List Char
  | '-' :: s => (true, s)
  | '+' :: s => (false, s)
  | s => (false, s)

/-- An exponent from behind its letter. -/
def scanExponentBody (s : List Char) : (Bool × List Char) × List Char :=
  let (negative, s) := scanSign s
  let (digits, s) := spanDigits s
  ((negative, digits), s)

/-- An exponent, if its letter comes next. -/
def scanExponent : List Char → Option (Bool × List Char) × List Char
  | c :: s =>
    if c = 'e' ∨ c = 'E' then
      let (body, rest) := scanExponentBody s
      (some body, rest)
    else (none, c :: s)
  | [] => (none, [])

/-- A number literal from behind its sign, and the text behind it. -/
def scan (negative : Bool) (s : List Char) : NumberLiteral × List Char :=
  let (whole, s) := spanDigits s
  let (fraction, s) := scanFraction s
  let (exponent, s) := scanExponent s
  (⟨negative, whole, fraction, exponent⟩, s)

/-- The number that a literal stands for, unless its exponent has no digits. -/
def value? (n : NumberLiteral) : Option Binary64 :=
  let digits := decimalValue (n.whole ++ n.fraction)
  let places : Int := n.fraction.length
  match n.exponent with
  | none => some (.ofDecimal n.negative digits (-places))
  | some (_, []) => none
  | some (negative, exponent) =>
    let e : Int := decimalValue exponent
    some (.ofDecimal n.negative digits ((if negative then -e else e) - places))

theorem spanDigits_suffix (s : List Char) : (spanDigits s).2 <:+ s := List.dropWhile_suffix _

theorem scanFraction_suffix (s : List Char) : (scanFraction s).2 <:+ s := by
  unfold scanFraction
  split
  · exact (spanDigits_suffix _).trans (List.suffix_cons _ _)
  · exact List.suffix_refl _

theorem scanSign_suffix (s : List Char) : (scanSign s).2 <:+ s := by
  unfold scanSign
  split
  · exact List.suffix_cons _ _
  · exact List.suffix_cons _ _
  · exact List.suffix_refl _

theorem scanExponent_suffix (s : List Char) : (scanExponent s).2 <:+ s := by
  unfold scanExponent
  split
  · split
    · exact ((spanDigits_suffix _).trans (scanSign_suffix _)).trans (List.suffix_cons _ _)
    · exact List.suffix_refl _
  · exact List.suffix_refl _

/-- What a number literal leaves is an end of the text. -/
theorem scan_suffix (negative : Bool) (s : List Char) : (scan negative s).2 <:+ s :=
  (scanExponent_suffix _).trans ((scanFraction_suffix _).trans (spanDigits_suffix s))

end NumberLiteral

end Phrasebook
