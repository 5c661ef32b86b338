import Phrasebook.Json.Reader
import Phrasebook.Options

/-!
# Phrasebook.Options.Json

Options in strict JSON: an object, or an array of the options in order.  An option that is not given
has its standard value.
-/

namespace Phrasebook

/-- Why options cannot be loaded. -/
inductive OptionsError where
  | json
  | yaml
  deriving DecidableEq, Repr

namespace OptionsError

/-- The error in words. -/
def message : OptionsError → String
  | json => "Invalid JSON parse options"
  | yaml => "Invalid YAML parse options"

/-- The published code of an error. -/
def code : OptionsError → String
  | json => "config::json"
  | yaml => "config::yaml"

end OptionsError

namespace Options

/-- The names of the options, in order. -/
def fieldNames : List String := ["missing_nouns", "duplicate_keys", "check_phrase_noun_collisions"]

/-- The value of an option that may not be given. -/
def optional {α β : Type} (read : β → Option α) (standard : α) : Option β → Option α
  | none => some standard
  | some b => read b

/-- The options that a JSON value gives. -/
def ofJson? (j : Json) : Option Options := do
  match ← j.fields? fieldNames with
  | [missingNouns, duplicateKeys, collisions] =>
    let missingNouns ←
      optional (Json.choice? SectionPolicy.ofName?) standard.missingNouns missingNouns
    let duplicateKeys ←
      optional (Json.choice? DuplicateKeyPolicy.ofName?) standard.duplicateKeys duplicateKeys
    let collisions ← optional Json.boolean? standard.checkPhraseNounCollisions collisions
    pure ⟨missingNouns, duplicateKeys, collisions⟩
  | _ => none

/-- The options that a JSON text gives. -/
def ofJsonText (text : String) : Except OptionsError Options :=
  match (Json.ofText? text).bind ofJson? with
  | some options => .ok options
  | none => .error .json

end Options

end Phrasebook
