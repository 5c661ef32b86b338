import Phrasebook.Text.Hex
import Phrasebook.Token.NumberLiteral

/-!
# Phrasebook.Yaml.Plain

Plain scalars that do not stand for themselves: written without quotes they are read as null, as a
boolean or as a number.

1. Null is the empty scalar, a tilde, or `null` in one of three capitalisations; booleans are `true`
   and `false` in the same three.
2. Whole numbers are decimal, or hexadecimal, octal or binary with `0x`, `0o`, `0b` in front; they
   have a sign if any, and fit into 128 bits.
3. Other numbers are decimal with a finite value in the 64-bit format, or one of the words for
   infinity and for "not a number".
4. Decimal digits with a zero in front are no number.  They are still never written plain.
-/

namespace Phrasebook.Yaml

open Text

/-- Whether a plain scalar is read as null. -/
def isNull (s : String) : Bool := ["", "~", "null", "Null", "NULL"].contains s

/-- The boolean that a plain scalar is read as. -/
def boolean? (s : String) : Option Bool :=
  if ["true", "True", "TRUE"].contains s then some true
  else if ["false", "False", "FALSE"].contains s then some false
  else none

/-- A scalar without the sign in front, and whether that is a minus sign. -/
def splitSign : List Char → Bool × List Char
  | '-' :: rest => (true, rest)
  | '+' :: rest => (false, rest)
  | s => (false, s)

/-- Two or more decimal digits of which the first is zero, behind a sign if any. -/
def isZeroPadded (s : List Char) : Bool :=
  match (splitSign s).2 with
  | '0' :: c :: rest => (c :: rest).all Char.isDigit
  | _ => false

/-- The number that digits of a base write, if there is at least one digit and nothing else. -/
def digitsValue? (base : Nat) (digits : List Char) : Option Nat :=
  if digits.isEmpty then none
  else if digits.all fun c => isHexDigit c && hexDigitValue c < base then
    some (digits.foldl (fun n c => base * n + hexDigitValue c) 0)
  else none

/-- The magnitude of a whole number behind its sign. -/
def magnitude? : List Char → Option Nat
  | '0' :: 'x' :: digits => digitsValue? 16 digits
  | '0' :: 'o' :: digits => digitsValue? 8 digits
  | '0' :: 'b' :: digits => digitsValue? 2 digits
  | digits => if isZeroPadded digits then none else digitsValue? 10 digits

/-- Whether a plain scalar is read as a whole number. -/
def isWhole (s : List Char) : Bool :=
  let (negative, rest) := splitSign s
  (magnitude? rest).any fun n =>
    if negative then n ≤ 0x80000000000000000000000000000000
    else n ≤ 0xFFFFFFFFFFFFFFFFFFFFFFFFFFFFFFFF

/-- The words for infinity and for "not a number". -/
def specialNumbers : List String :=
  [".inf", ".Inf", ".INF", "+.inf", "+.Inf", "+.INF", "-.inf", "-.Inf", "-.INF",
    ".nan", ".NaN", ".NAN"]

/-- Whether a scalar is a decimal number with a finite value. -/
def isFiniteDecimal (s : List Char) : Bool :=
  let (negative, rest) := splitSign s
  let (literal, after) := NumberLiteral.scan negative rest
  after.isEmpty && !(literal.whole ++ literal.fraction).isEmpty
    && literal.value?.any Binary64.isFinite

/-- Whether a plain scalar is read as something else than its own text, or looks as if it were. -/
def isResolved (s : String) : Bool :=
  isNull s || (boolean? s).isSome || isWhole s.toList || specialNumbers.contains s
    || isFiniteDecimal s.toList || isZeroPadded s.toList

end Phrasebook.Yaml
