import Phrasebook.Validation.Entry

/-!
# Phrasebook.Validation.Noun

Entries of the `nouns` section.

Each language has an array of texts, the singular and the plural first.  English is required whether
or not it is declared.  A language with fewer than two forms is reported and left out of the noun.
-/

namespace Phrasebook

/-- The texts of an array of strings. -/
def texts? (node : Node) : Option (List String) := node.elements?.bind (·.mapM Node.text?)

/-- The languages that a noun must have. -/
def nounLanguages (metadata : Metadata) : List String :=
  if metadata.supports Language.english then metadata.languages
  else metadata.languages ++ [Language.english]

/-- The singular and the plural of a translation. -/
def forms? (t : Translation (List String)) : Option (String × String) :=
  match t.value with
  | singular :: plural :: _ => some (singular, plural)
  | _ => none

/-- The noun of an entry whose key and translations are known. -/
def nounOf (entry : Property) (metadata : Metadata)
    (translations : List (Translation (List String))) (key : String) : Check Noun := do
  reportMissing entry key (nounLanguages metadata) (translations.map (·.language))
  reportExtra key (nounLanguages metadata) translations
  forEach (fun t => reportNode t.node (.nounIsIncomplete key t.language))
    (translations.filter fun t => (forms? t).isNone)
  let forms := translations.filterMap fun t => (forms? t).map fun f => (t.language, f)
  pure ⟨key, .ofList (forms.map fun f => (f.1, f.2.1)), .ofList (forms.map fun f => (f.1, f.2.2))⟩

/-- The noun of an entry. -/
def validateNoun (entry : Property) (metadata : Metadata) : Check (Option Noun) := do
  match ← readTranslations "an array of strings" texts? entry with
  | none => pure none
  | some translations =>
    match ← entryKey entry with
    | none => pure none
    | some key => do
      let noun ← nounOf entry metadata translations key
      pure (some noun)

end Phrasebook
