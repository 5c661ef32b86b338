import Phrasebook.Json
import Phrasebook.Text.Hex

/-!
# Phrasebook.Json.Printer

JSON with one element or member a line.

1. Each level is indented by two more spaces; empty containers are written `[]` and `{}`.
2. In strings, a quote, a backslash and the control characters of ASCII below the space are escaped,
   with a short escape where there is one.  All other characters stand for themselves.
-/

namespace Phrasebook.Json

open Text

/-- A character of a string. -/
def escapedChar (c : Char) : List Char :=
  match c with
  | '"' => ['\\', '"']
  | '\\' => ['\\', '\\']
  | '\x08' => ['\\', 'b']
  | '\x0c' => ['\\', 'f']
  | '\n' => ['\\', 'n']
  | '\r' => ['\\', 'r']
  | '\t' => ['\\', 't']
  | c => if c.toNat < 0x20 then '\\' :: 'u' :: hexPadded 4 c.toNat else [c]

/-- A string in quotes; one without a text is written as half a surrogate pair. -/
def writtenString : Option String → List Char
  | some text => ('"' :: text.toList.flatMap escapedChar) ++ ['"']
  | none => ['"', '\\', 'u', 'd', '8', '0', '0', '"']

/-- The start of a line at a level. -/
def newline (level : Nat) : List Char := '\n' :: List.replicate (2 * level) ' '

mutual

/-- A value that starts on a line of some level. -/
def written (level : Nat) : Json → List Char
  | .null => ['n', 'u', 'l', 'l']
  | .boolean true => ['t', 'r', 'u', 'e']
  | .boolean false => ['f', 'a', 'l', 's', 'e']
  | .number literal => literal.toList
  | .string text => writtenString text
  | .array [] => ['[', ']']
  | .array (j :: rest) =>
    ('[' :: newline (level + 1)) ++ written (level + 1) j ++ writtenElements (level + 1) rest
      ++ newline level ++ [']']
  | .object [] => ['{', '}']
  | .object (m :: rest) =>
    ('{' :: newline (level + 1)) ++ writtenString m.1 ++ [':', ' '] ++ written (level + 1) m.2
      ++ writtenMembers (level + 1) rest ++ newline level ++ ['}']

/-- The elements of an array behind the first. -/
def writtenElements (level : Nat) : List Json → List Char
  | [] => []
  | j :: rest => (',' :: newline level) ++ written level j ++ writtenElements level rest

/-- The members of an object behind the first. -/
def writtenMembers (level : Nat) : List (Option String × Json) → List Char
  | [] => []
  | m :: rest =>
    (',' :: newline level) ++ writtenString m.1 ++ [':', ' '] ++ written level m.2
      ++ writtenMembers level rest

end

/-- The text of a value. -/
def pretty (j : Json) : String := String.ofList (written 0 j)

end Phrasebook.Json
