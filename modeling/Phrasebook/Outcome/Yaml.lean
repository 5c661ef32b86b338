import Phrasebook.Outcome
import Phrasebook.Yaml.Printer

/-!
# Phrasebook.Outcome.Yaml

Outcomes in YAML: the same structures as in JSON, with their fields in the same order.
-/

namespace Phrasebook

/-- A list of texts. -/
def Yaml.ofStrings (texts : List String) : Yaml := .sequence (texts.map .string)

/-- Translations as a mapping. -/
def Translations.toYaml (t : Translations) : Yaml :=
  .mapping (t.entries.map fun e => (e.1, .string e.2))

/-- Metadata as a mapping. -/
def Metadata.toYaml (m : Metadata) : Yaml :=
  .mapping [("languages", .ofStrings m.languages), ("version", .string m.version)]

/-- A phrase as a mapping. -/
def Phrase.toYaml (p : Phrase) : Yaml :=
  .mapping [("key", .string p.key), ("translations", p.translations.toYaml),
    ("arguments", .ofStrings p.arguments)]

/-- A noun as a mapping. -/
def Noun.toYaml (n : Noun) : Yaml :=
  .mapping [("key", .string n.key), ("singular", n.singular.toYaml), ("plural", n.plural.toYaml)]

/-- A book as a mapping. -/
def Book.toYaml (b : Book) : Yaml :=
  .mapping [("metadata", b.metadata.toYaml), ("phrases", .sequence (b.phrases.map Phrase.toYaml)),
    ("nouns", .sequence (b.nouns.map Noun.toYaml))]

/-- A diagnostic as a mapping. -/
def Diagnostic.toYaml (d : Diagnostic) : Yaml :=
  .mapping [("code", .string d.code.name), ("severity", .string d.severity.name),
    ("message", .string d.message), ("file_id", .string d.fileId), ("line", .number d.line),
    ("column", .number d.column), ("length", .number d.length), ("offset", .number d.offset),
    ("byte_length", .number d.byteLength)]

/-- An outcome as a mapping. -/
def Outcome.toYaml (o : Outcome) : Yaml :=
  .mapping [("data", o.data.toYaml),
    ("diagnostics", .sequence (o.diagnostics.map Diagnostic.toYaml))]

/-- The YAML text of an outcome. -/
def Outcome.toYamlText (o : Outcome) : String := o.toYaml.document

end Phrasebook
