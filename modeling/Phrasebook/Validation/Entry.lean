import Phrasebook.Diagnostic.Sink
import Phrasebook.Identifier
import Phrasebook.Model
import Phrasebook.Validation.Distinct

/-!
# Phrasebook.Validation.Entry

What phrases and nouns have in common: a sentence as the name, and an object that gives something
for each language.

1. The first value of a wrong kind gives the whole entry up.
2. Names that are equal as language codes count as one language; the first one wins.
3. Every required language without a translation is reported once, at the whole object.
-/

namespace Phrasebook

/-- What an entry gives for a language. -/
structure Translation (α : Type) where
  /-- The language in normal form. -/
  language : String
  node : Node
  value : α

/-- What a property of an entry gives, if its value is of the kind that `read` expects. -/
def readTranslation? {α : Type} (read : Node → Option α) (property : Property) :
    Option (Translation α) :=
  (read property.value).map fun value => ⟨Language.normalize property.name, property.value, value⟩

/-- The translations of an entry, one for each language, if each value is of the kind that `read`
expects; `expected` names that kind. -/
def readTranslations {α : Type} (expected : String) (read : Node → Option α) (entry : Property) :
    Check (Option (List (Translation α))) :=
  if entry.value.isObject then
    match entry.value.properties.find? fun property => (read property.value).isNone with
    | some property => do
      reportNode property.value (.jsonException
        ("Translation '" ++ property.name ++ "' of '" ++ entry.name ++ "' must be " ++ expected
          ++ ", found " ++ property.value.typeName))
      pure none
    | none =>
      pure (some (distinctOn (·.language)
        (entry.value.properties.filterMap (readTranslation? read))))
  else do
    reportNode entry.value (.jsonException
      ("Expected an object of translations for '" ++ entry.name ++ "', found "
        ++ entry.value.typeName))
    pure none

/-- The key of an entry. -/
def entryKey (entry : Property) : Check (Option String) :=
  match Identifier.ofSentence entry.name with
  | .ok identifier => do
    if identifier.digitPrefixed then reportName entry (.keyStartsWithDigit entry.name)
    pure (some identifier.text)
  | .error error => do
    reportName entry (.invalidJsonFormat error.message)
    pure none

/-- Reports the required languages that have no translation. -/
def reportMissing (entry : Property) (key : String) (required present : List String) : Check Unit :=
  forEach (fun language => reportNode entry.value (.missingTranslation key language))
    (distinct (required.filter fun language => !present.contains language))

/-- Reports the translations into languages that are not among the known ones. -/
def reportExtra {α : Type} (key : String) (known : List String)
    (translations : List (Translation α)) : Check Unit :=
  forEach (fun t => reportNode t.node (.extraTranslation key t.language))
    (translations.filter fun t => !known.contains t.language)

end Phrasebook
