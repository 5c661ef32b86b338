/-!
# Phrasebook.Yaml

The values that the library writes in YAML: texts, natural numbers, sequences, and mappings with
texts as keys.
-/

namespace Phrasebook

/-- A value to be written in YAML. -/
inductive Yaml where
  | string (text : String)
  | number (n : Nat)
  | sequence (items : List Yaml)
  | mapping (entries : List (String × Yaml))

end Phrasebook
