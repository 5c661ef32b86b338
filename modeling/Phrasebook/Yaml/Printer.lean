import Phrasebook.Yaml
import Phrasebook.Yaml.Scalar

/-!
# Phrasebook.Yaml.Printer

YAML in block style.

1. A mapping inside a mapping is indented by two more spaces; a sequence inside a mapping is not.
2. A collection inside a sequence starts on the line of its dash.
3. Empty collections are written `[]` and `{}`.
4. A key that spans lines or is longer than 128 bytes stands behind a question mark, and its value
   behind a colon on a line of its own.
-/

namespace Phrasebook.Yaml

mutual

/-- What stands behind the dash of a sequence at a column, or behind the colon on a line of its own,
up to the end of a line. -/
def afterDash (indent : Nat) : Yaml → List Char
  | .string s => ' ' :: scalarLine (indent + 2) s
  | .number n => (' ' :: (toString n).toList) ++ ['\n']
  | .sequence [] => [' ', '[', ']', '\n']
  | .sequence (item :: rest) =>
    [' ', '-'] ++ afterDash (indent + 2) item ++ writtenItems (indent + 2) rest
  | .mapping [] => [' ', '{', '}', '\n']
  | .mapping (entry :: rest) =>
    ' ' :: writtenEntry (indent + 2) entry ++ writtenEntries (indent + 2) rest

/-- What stands behind the colon of a simple key, up to the end of a line. -/
def afterKey (indent : Nat) : Yaml → List Char
  | .string s => ' ' :: scalarLine (indent + 2) s
  | .number n => (' ' :: (toString n).toList) ++ ['\n']
  | .sequence [] => [' ', '[', ']', '\n']
  | .sequence (item :: rest) =>
    '\n' :: indentation indent ++ ['-'] ++ afterDash indent item ++ writtenItems indent rest
  | .mapping [] => [' ', '{', '}', '\n']
  | .mapping (entry :: rest) =>
    '\n' :: indentation (indent + 2) ++ writtenEntry (indent + 2) entry
      ++ writtenEntries (indent + 2) rest

/-- An entry of a mapping, from its key on. -/
def writtenEntry (indent : Nat) : String × Yaml → List Char
  | (key, value) =>
    if isSimpleKey key then writtenScalar (indent + 2) key ++ [':'] ++ afterKey indent value
    else
      ['?', ' '] ++ scalarLine (indent + 2) key ++ indentation indent ++ [':']
        ++ afterDash indent value

/-- The entries of a mapping, each on a line of its own. -/
def writtenEntries (indent : Nat) : List (String × Yaml) → List Char
  | [] => []
  | entry :: rest => indentation indent ++ writtenEntry indent entry ++ writtenEntries indent rest

/-- The items of a sequence, each on a line of its own. -/
def writtenItems (indent : Nat) : List Yaml → List Char
  | [] => []
  | item :: rest => indentation indent ++ ['-'] ++ afterDash indent item ++ writtenItems indent rest

end

/-- The text of a document that holds one value. -/
def document : Yaml → String
  | .string s => String.ofList (scalarLine 2 s)
  | .number n => toString n ++ "\n"
  | .sequence items =>
    String.ofList (if items.isEmpty then ['[', ']', '\n'] else writtenItems 0 items)
  | .mapping entries =>
    String.ofList (if entries.isEmpty then ['{', '}', '\n'] else writtenEntries 0 entries)

end Phrasebook.Yaml
