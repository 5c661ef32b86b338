import Phrasebook.Json.Printer
import Phrasebook.Json.Reader
import Phrasebook.Outcome

/-!
# Phrasebook.Outcome.Json

Outcomes in JSON, in both directions.

Each structure is written as an object with its fields in a fixed order, codes and severities by
their names, and translations as objects with ascending languages.  Reading needs every field; of
several translations into one language the last one counts.
-/

namespace Phrasebook

/-! ## Writing -/

/-- A list of texts. -/
def Json.ofStrings (texts : List String) : Json := .array (texts.map .ofString)

/-- Translations as an object. -/
def Translations.toJson (t : Translations) : Json :=
  .ofMembers (t.entries.map fun e => (e.1, .ofString e.2))

/-- Metadata as an object. -/
def Metadata.toJson (m : Metadata) : Json :=
  .ofMembers [("languages", .ofStrings m.languages), ("version", .ofString m.version)]

/-- A phrase as an object. -/
def Phrase.toJson (p : Phrase) : Json :=
  .ofMembers [("key", .ofString p.key), ("translations", p.translations.toJson),
    ("arguments", .ofStrings p.arguments)]

/-- A noun as an object. -/
def Noun.toJson (n : Noun) : Json :=
  .ofMembers [("key", .ofString n.key), ("singular", n.singular.toJson),
    ("plural", n.plural.toJson)]

/-- A book as an object. -/
def Book.toJson (b : Book) : Json :=
  .ofMembers [("metadata", b.metadata.toJson), ("phrases", .array (b.phrases.map Phrase.toJson)),
    ("nouns", .array (b.nouns.map Noun.toJson))]

/-- A diagnostic as an object. -/
def Diagnostic.toJson (d : Diagnostic) : Json :=
  .ofMembers [("code", .ofString d.code.name), ("severity", .ofString d.severity.name),
    ("message", .ofString d.message), ("file_id", .ofString d.fileId), ("line", .ofNat d.line),
    ("column", .ofNat d.column), ("length", .ofNat d.length), ("offset", .ofNat d.offset),
    ("byte_length", .ofNat d.byteLength)]

/-- An outcome as an object. -/
def Outcome.toJson (o : Outcome) : Json :=
  .ofMembers [("data", o.data.toJson),
    ("diagnostics", .array (o.diagnostics.map Diagnostic.toJson))]

/-- The JSON text of an outcome. -/
def Outcome.toJsonText (o : Outcome) : String := o.toJson.pretty

/-! ## Reading -/

/-- A list of texts. -/
def Json.strings? (j : Json) : Option (List String) := j.list? Json.text?

/-- Translations from an object. -/
def Translations.ofJson? (j : Json) : Option Translations := j.entries?.map .ofList

/-- Metadata from a JSON value. -/
def Metadata.ofJson? (j : Json) : Option Metadata := do
  match ← j.allFields? ["languages", "version"] with
  | [languages, version] => do
    let languages ← languages.strings?
    let version ← version.text?
    pure ⟨languages, version⟩
  | _ => none

/-- A phrase from a JSON value. -/
def Phrase.ofJson? (j : Json) : Option Phrase := do
  match ← j.allFields? ["key", "translations", "arguments"] with
  | [key, translations, arguments] => do
    let key ← key.text?
    let translations ← Translations.ofJson? translations
    let arguments ← arguments.strings?
    pure ⟨key, translations, arguments⟩
  | _ => none

/-- A noun from a JSON value. -/
def Noun.ofJson? (j : Json) : Option Noun := do
  match ← j.allFields? ["key", "singular", "plural"] with
  | [key, singular, plural] => do
    let key ← key.text?
    let singular ← Translations.ofJson? singular
    let plural ← Translations.ofJson? plural
    pure ⟨key, singular, plural⟩
  | _ => none

/-- A book from a JSON value. -/
def Book.ofJson? (j : Json) : Option Book := do
  match ← j.allFields? ["metadata", "phrases", "nouns"] with
  | [metadata, phrases, nouns] => do
    let metadata ← Metadata.ofJson? metadata
    let phrases ← phrases.list? Phrase.ofJson?
    let nouns ← nouns.list? Noun.ofJson?
    pure ⟨metadata, phrases, nouns⟩
  | _ => none

/-- A diagnostic from a JSON value. -/
def Diagnostic.ofJson? (j : Json) : Option Diagnostic := do
  match ← j.allFields? ["code", "severity", "message", "file_id", "line", "column", "length",
      "offset", "byte_length"] with
  | [code, severity, message, fileId, line, column, length, offset, byteLength] => do
    let code ← code.choice? Code.ofName?
    let severity ← severity.choice? Severity.ofName?
    let message ← message.text?
    let fileId ← fileId.text?
    let line ← line.natural?
    let column ← column.natural?
    let length ← length.natural?
    let offset ← offset.natural?
    let byteLength ← byteLength.natural?
    pure ⟨code, severity, message, fileId, line, column, length, offset, byteLength⟩
  | _ => none

/-- An outcome from a JSON value. -/
def Outcome.ofJson? (j : Json) : Option Outcome := do
  match ← j.allFields? ["data", "diagnostics"] with
  | [data, diagnostics] => do
    let data ← Book.ofJson? data
    let diagnostics ← diagnostics.list? Diagnostic.ofJson?
    pure ⟨data, diagnostics⟩
  | _ => none

/-- The outcome that a JSON text gives. -/
def Outcome.ofJsonText? (text : String) : Option Outcome :=
  (Json.ofText? text).bind Outcome.ofJson?

end Phrasebook
