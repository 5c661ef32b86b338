import Phrasebook.Text.Hex
import Phrasebook.Yaml.Token.Scalar

/-!
# Phrasebook.Yaml.Token.Tag

Tags of YAML.

1. A tag is `!<...>`, or a handle and a suffix.  A handle is `!`, `!!`, or a name between two
   exclamation marks; where no second mark follows a name, the handle is `!` and the name belongs to
   the suffix.
2. An octet of a tag may be written as a per cent sign and two hexadecimal digits.  Octets that are
   written so make up characters: the first tells how many others follow, and those are in the range
   of the octets that follow one.
3. What stands behind a null octet does not count.
4. The exclamation mark alone is a tag as it is, and its handle has no meaning to be looked up.
-/

namespace Phrasebook.Yaml

open Text

/-- The UTF-8 form of a text. -/
def octets (s : List Char) : List UInt8 := s.flatMap String.utf8EncodeChar

/-- Whether a character may stand in the name of an anchor or a tag handle. -/
def isNameChar (c : Char) : Bool := c.isAlphanum || c == '_' || c == '-'

/-- Whether a character other than the per cent sign may stand in a tag; `wide` allows commas and
brackets. -/
def isTagChar (wide : Bool) (c : Char) : Bool :=
  isNameChar c
    || [';', '/', '?', ':', '@', '&', '=', '+', '$', '.', '!', '~', '*', '\'', '(', ')'].contains c
    || (wide && [',', '[', ']'].contains c)

/-- How many octets follow the first one of a character. -/
def followers? (lead : Nat) : Option Nat :=
  if lead < 0x80 then some 0
  else if lead < 0xC0 then none
  else if lead < 0xE0 then some 1
  else if lead < 0xF0 then some 2
  else if lead < 0xF8 then some 3
  else none

/-- How many octets are owed behind an octet before which some were. -/
def stillOwed? (owed octet : Nat) : Option Nat :=
  if owed = 0 then followers? octet
  else if 0x80 ≤ octet && octet < 0xC0 then some (owed - 1)
  else none

/-- The octets at the start of a text that make up a tag, and the text behind them; `owed` octets
must be written in digits first. -/
def scanTagOctets (wide : Bool) (owed : Nat) : List Char → Option (List UInt8 × List Char)
  | '%' :: a :: b :: rest =>
    if isHexDigit a && isHexDigit b then do
      let octet := hexValue [a, b]
      let (found, rest) ← scanTagOctets wide (← stillOwed? owed octet) rest
      some (UInt8.ofNat octet :: found, rest)
    else none
  | [] => if owed = 0 then some ([], []) else none
  | c :: rest =>
    if owed ≠ 0 || c == '%' then none
    else if isTagChar wide c then
      (scanTagOctets wide 0 rest).map fun (found, rest) => (octets [c] ++ found, rest)
    else some ([], c :: rest)

/-- One octet or more that make up a tag, up to a null octet if there is one, and the text behind
them. -/
def scanTagText (wide : Bool) (s : List Char) : Option (List UInt8 × List Char) := do
  let (found, rest) ← scanTagOctets wide 0 s
  if found.isEmpty then none else some (found.takeWhile (· ≠ 0), rest)

/-- A tag and the text behind it. -/
structure TagScan where
  handle : String
  suffix : List UInt8
  rest : List Char
  deriving DecidableEq, Repr

/-- A tag from behind its first exclamation mark. -/
def scanTag (s : List Char) : Option TagScan :=
  match s with
  | '<' :: s => do
    match ← scanTagText true s with
    | (found, '>' :: rest) => some ⟨"", found, rest⟩
    | _ => none
  | s =>
    let name := s.takeWhile isNameChar
    match s.dropWhile isNameChar with
    | '!' :: s => do
      let (found, rest) ← scanTagText false s
      some ⟨String.ofList ('!' :: name ++ ['!']), found, rest⟩
    | s => do
      let (found, rest) ← scanTagOctets false 0 s
      let suffix := (octets name ++ found).takeWhile (· ≠ 0)
      some (if suffix.isEmpty then ⟨"", octets ['!'], rest⟩ else ⟨"!", suffix, rest⟩)

end Phrasebook.Yaml
