import Phrasebook.Text.Blank
import Phrasebook.Text.Numeral
import Phrasebook.Text.Upper

/-!
# Phrasebook.Identifier

Identifiers made from sentences: `Select a(n) {item}` becomes `SelectAn_`.

1. Letters and numerals outside braces are kept; every other character is dropped.
2. The first character kept behind a space or a closing brace becomes upper case.  No other blank
   has this effect.
3. A closing brace leaves an underscore, whether or not a brace was open.
4. An identifier that would start with a numeral is given a `d` in front.
-/

namespace Phrasebook

open Text

/-- An identifier made from a sentence. -/
structure Identifier where
  text : String
  /-- The sentence starts with a numeral, so a `d` stands in front. -/
  digitPrefixed : Bool
  deriving DecidableEq, Repr

/-- Why no identifier can be made from a sentence. -/
inductive IdentifierError where
  | blank
  | noIdentifierCharacters (sentence : String)
  deriving DecidableEq, Repr

/-- The error in words. -/
def IdentifierError.message : IdentifierError → String
  | blank => "Key is empty or invalid"
  | noIdentifierCharacters sentence => "Key '" ++ sentence ++ "' contains no letters or digits"

namespace Identifier

/-- What is kept of a sentence.  `capital` asks for upper case for the next character kept; `inside`
says that a brace is open. -/
def keep (capital inside : Bool) : List Char → List Char
  | [] => []
  | c :: rest =>
    if c = '{' then keep capital true rest
    else if c = '}' then '_' :: keep true false rest
    else if c = ' ' then keep true inside rest
    else if isAlphanumeric c && !inside then
      (if capital then upper c else [c]) ++ keep false inside rest
    else keep capital inside rest

/-- The identifier of a sentence. -/
def ofSentence (sentence : String) : Except IdentifierError Identifier :=
  if blank sentence.toList then .error .blank
  else
    match keep false false sentence.toList with
    | [] => .error (.noIdentifierCharacters sentence)
    | c :: rest =>
      if isNumeral c then .ok ⟨String.ofList ('d' :: c :: rest), true⟩
      else .ok ⟨String.ofList (c :: rest), false⟩

end Identifier

end Phrasebook
