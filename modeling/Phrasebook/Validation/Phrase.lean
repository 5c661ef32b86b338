import Phrasebook.Placeholder
import Phrasebook.Validation.Entry

/-!
# Phrasebook.Validation.Phrase

Entries of the `phrases` section.

The name of an entry is the English sentence, and its placeholders are the arguments of the phrase.
A translation that leaves an argument out is reported; one that uses an argument of its own is
reported and gives the phrase up.  A translation into English is neither missing nor extra, and the
sentence itself takes its place.
-/

namespace Phrasebook

/-- The arguments of a translation that the sentence does not have. -/
def unknownArguments (arguments : List String) (t : Translation String) : List String :=
  (distinct (placeholders t.value)).filter fun argument => !arguments.contains argument

/-- The arguments of the sentence that a translation does not use. -/
def unusedArguments (arguments : List String) (t : Translation String) : List String :=
  (distinct arguments).filter fun argument => !(placeholders t.value).contains argument

/-- Reports the differences between the arguments of a sentence and those of a translation. -/
def reportArguments (key : String) (arguments : List String) (t : Translation String) :
    Check Unit := do
  forEach (fun argument => reportNode t.node (.extraPhraseArgument key argument t.language))
    (unknownArguments arguments t)
  forEach (fun argument => reportNode t.node (.missingPhraseArgument key argument t.language))
    (unusedArguments arguments t)

/-- The texts of a phrase: those of its translations, and the sentence for English. -/
def phraseTexts (sentence : String) (translations : List (Translation String)) : Translations :=
  (Translations.ofList (translations.map fun t => (t.language, t.value))).insert
    Language.english sentence

/-- The phrase of an entry whose key and translations are known. -/
def phraseOf (entry : Property) (metadata : Metadata) (translations : List (Translation String))
    (key : String) : Check (Option Phrase) := do
  let arguments := placeholders entry.name
  let foreign := translations.filter fun t => t.language != Language.english
  reportMissing entry key (metadata.languages.filter (· != Language.english))
    (translations.map (·.language))
  reportExtra key metadata.languages foreign
  forEach (reportArguments key arguments) foreign
  if foreign.all fun t => (unknownArguments arguments t).isEmpty then
    pure (some ⟨key, phraseTexts entry.name translations, arguments⟩)
  else do
    logEvent (.unknownArgument key)
    pure none

/-- The phrase of an entry. -/
def validatePhrase (entry : Property) (metadata : Metadata) : Check (Option Phrase) := do
  match ← readTranslations "a string" Node.text? entry with
  | none => pure none
  | some translations =>
    match ← entryKey entry with
    | none => pure none
    | some key => phraseOf entry metadata translations key

end Phrasebook
