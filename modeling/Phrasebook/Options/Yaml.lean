import Phrasebook.Options.Json
import Phrasebook.Yaml.Node

/-!
# Phrasebook.Options.Yaml

Options in YAML: a mapping of the options that are given.  An empty document gives none.

1. The name of a policy is the text of a scalar, in whatever form and under whatever tag, but for
   one that starts with an exclamation mark: then the name is what follows the mark, and the scalar
   must be null.
2. A boolean is plain, or it is a literal block with the tag of booleans.
3. Aliases are followed where the value of an option or the name of an entry is read, and nowhere
   else.
-/

namespace Phrasebook

namespace YamlNode

/-- The text of a scalar. -/
def text? : YamlNode → Option String
  | .scalar _ _ _ text => some text
  | _ => none

/-- The tag of booleans. -/
def booleanTag : List UInt8 := Yaml.octets "tag:yaml.org,2002:bool".toList

/-- A boolean. -/
def boolean? : YamlNode → Option Bool
  | .scalar _ .plain _ text => Yaml.boolean? text
  | .scalar _ .literal (some tag) text => if tag = booleanTag then Yaml.boolean? text else none
  | _ => none

/-- The name that a tag gives behind an exclamation mark. -/
def tagName? : List UInt8 → Option String
  | 0x21 :: name => String.fromUTF8? ⟨name.toArray⟩
  | _ => none

/-- One of the names that `ofName?` knows. -/
def choice? {α : Type} (ofName? : String → Option α) : YamlNode → Option α
  | .scalar _ form tag text =>
    match tag.bind tagName? with
    | none => ofName? text
    | some name => if form = .plain && Yaml.isNull text then ofName? name else none
  | _ => none

/-- The only value that a name has among the entries of a mapping: `some none` if there is none, and
`none` if there are several. -/
def single? (entries : List (String × YamlNode)) (name : String) : Option (Option YamlNode) :=
  match entries.filter (·.1 == name) with
  | [] => some none
  | [entry] => some (some entry.2)
  | _ => none

/-- The entries of a document that is a mapping whose keys are all texts; an empty plain scalar
counts as a mapping without entries. -/
def entries? (root : YamlNode) : Option (List (String × YamlNode)) :=
  match root with
  | .mapping _ entries => entries.mapM fun e => (root.resolve e.1).text?.map (·, e.2)
  | .scalar _ .plain _ "" => some []
  | _ => none

end YamlNode

namespace Options

/-- The options that a YAML document gives. -/
def ofYaml? (root : YamlNode) : Option Options := do
  let entries ← root.entries?
  let value? (name : String) : Option (Option YamlNode) :=
    (YamlNode.single? entries name).map (·.map root.resolve)
  let missingNouns ← value? "missing_nouns"
  let duplicateKeys ← value? "duplicate_keys"
  let collisions ← value? "check_phrase_noun_collisions"
  let missingNouns ←
    optional (YamlNode.choice? SectionPolicy.ofName?) standard.missingNouns missingNouns
  let duplicateKeys ←
    optional (YamlNode.choice? DuplicateKeyPolicy.ofName?) standard.duplicateKeys duplicateKeys
  let collisions ← optional YamlNode.boolean? standard.checkPhraseNounCollisions collisions
  pure ⟨missingNouns, duplicateKeys, collisions⟩

/-- The options that a YAML text gives. -/
def ofYamlText (text : String) : Except OptionsError Options :=
  match YamlNode.ofText? text with
  | none => .error .yaml
  | some none => .ok standard
  | some (some root) =>
    match ofYaml? root with
    | some options => .ok options
    | none => .error .yaml

end Options

end Phrasebook
