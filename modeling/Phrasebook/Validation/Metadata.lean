import Phrasebook.Diagnostic.Sink
import Phrasebook.Model
import Phrasebook.Text.Blank

/-!
# Phrasebook.Validation.Metadata

The `metadata` section of a document.

1. Without the section, or without an array of languages in it, the document cannot be used.
2. A missing or blank version is reported, and the version is then empty.
3. A declared language that is not known is reported and left out.
-/

namespace Phrasebook

/-- The version that the metadata gives. -/
def versionOf (metadata : Node) : Check String :=
  match metadata.get? "version" with
  | none => do
    reportNode metadata .noVersionFound
    pure ""
  | some node =>
    match node.text? with
    | some version =>
      if Text.blank version.toList then do
        reportNode node .noVersionFound
        pure ""
      else pure version
    | none => do
      reportNode node .noVersionFound
      pure ""

/-- The language that an element of the array of languages declares. -/
def languageOf (element : Node) : Check (Option String) :=
  match element.text? with
  | none => do
    let text ← textOf element
    reportNode element (.invalidLanguage ("'" ++ text ++ "' is not a string"))
    pure none
  | some code =>
    match Language.validate code with
    | .ok language => pure (some language)
    | .error error => do
      logEvent (.languageRejected code error)
      reportNode element (.invalidLanguage error.message)
      pure none

/-- The metadata that a section holds. -/
def metadataOf (node : Node) : Check (Option Metadata) := do
  let version ← versionOf node
  match (node.get? "languages").bind Node.elements? with
  | none => do
    reportNode ((node.get? "languages").getD node) .noLanguagesFound
    pure none
  | some elements => do
    let languages ← collect languageOf elements
    pure (some ⟨languages, version⟩)

/-- The metadata of a document. -/
def validateMetadata (root : Node) : Check (Option Metadata) :=
  match root.get? "metadata" with
  | none => do
    reportNode root .noMetadata
    pure none
  | some node =>
    if node.isObject then metadataOf node
    else do
      reportNode node .noMetadata
      pure none

end Phrasebook
