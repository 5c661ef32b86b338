import Phrasebook.Yaml.Plain
import Phrasebook.Yaml.Token
import Phrasebook.Yaml.Token.Tag

/-!
# Phrasebook.Yaml.Token.Directive

Directives of YAML: the version of the language, and the meaning of a tag handle.

1. A version has two numbers of at most nine digits each; it must be 1.1 or 1.2.
2. The meaning of a handle is written like a tag, without an exclamation mark that counts.
3. Behind a directive there is nothing on its line but blanks and a comment.
-/

namespace Phrasebook.Yaml

/-- What follows a directive on its line: blanks and a comment. -/
def directiveEnd (s : List Char) : Option (List Char) :=
  let s := s.dropWhile isBlankChar
  let s := if s.head? == some '#' then s.dropWhile (!isBreak ·) else s
  if startsBreak s then some s else none

/-- A number of a version, and the text behind it. -/
def scanVersionNumber (s : List Char) : Option (Nat × List Char) :=
  let digits := s.takeWhile Char.isDigit
  if digits.length ≤ 9 then (digitsValue? 10 digits).map (·, s.dropWhile Char.isDigit) else none

/-- The version of the language, and the text behind the directive. -/
def scanVersion (s : List Char) : Option (YamlToken × List Char) := do
  match ← scanVersionNumber s with
  | (1, '.' :: s) =>
    let (minor, s) ← scanVersionNumber s
    if minor == 1 || minor == 2 then (directiveEnd s).map (.versionDirective, ·) else none
  | _ => none

/-- The handle of a tag in a directive, and the text behind it. -/
def scanHandle : List Char → Option (String × List Char)
  | '!' :: s =>
    let name := s.takeWhile isNameChar
    match s.dropWhile isNameChar with
    | '!' :: s => some (String.ofList ('!' :: name ++ ['!']), s)
    | s => if name.isEmpty then some ("!", s) else none
  | _ => none

/-- The meaning of a tag handle, and the text behind the directive. -/
def scanMeaning (s : List Char) : Option (YamlToken × List Char) := do
  let (handle, s) ← scanHandle s
  if s.head?.any isBlankChar then
    let (meaning, s) ← scanTagText true (s.dropWhile isBlankChar)
    if startsSpacing s then (directiveEnd s).map (.tagDirective handle meaning, ·) else none
  else none

/-- A directive from behind its percent sign, and the text behind it. -/
def scanDirective (s : List Char) : Option (YamlToken × List Char) :=
  let name := s.takeWhile isNameChar
  let s := s.dropWhile isNameChar
  if !startsSpacing s then none
  else if name == ['Y', 'A', 'M', 'L'] then scanVersion (s.dropWhile isBlankChar)
  else if name == ['T', 'A', 'G'] then scanMeaning (s.dropWhile isBlankChar)
  else none

end Phrasebook.Yaml
