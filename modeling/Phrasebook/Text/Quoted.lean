import Phrasebook.Text.Hex
import Phrasebook.Text.Unseen

/-!
# Phrasebook.Text.Quoted

Texts in double quotes, as log messages show them.

A quote and a backslash get a backslash in front; a null, a tab and the two line breaks of ASCII are
written `\0`, `\t`, `\n` and `\r`.  Any other character that does not print on its own is written as
its code point, in hexadecimal digits without zeros in front.  All other characters stand for
themselves.
-/

namespace Phrasebook.Text

/-- A character inside double quotes. -/
def quotedChar (c : Char) : List Char :=
  match c with
  | '\x00' => ['\\', '0']
  | '\t' => ['\\', 't']
  | '\n' => ['\\', 'n']
  | '\r' => ['\\', 'r']
  | '"' => ['\\', '"']
  | '\\' => ['\\', '\\']
  | c =>
    if isUnseen c then ['\\', 'u', '{'] ++ hexPadded 1 c.toNat ++ ['}']
    else [c]

/-- A text in double quotes. -/
def quoted (s : String) : String :=
  String.ofList (('"' :: s.toList.flatMap quotedChar) ++ ['"'])

/-- Texts in double quotes, in brackets and separated by commas. -/
def quotedList (xs : List String) : String := "[" ++ ", ".intercalate (xs.map quoted) ++ "]"

end Phrasebook.Text
