import Phrasebook.Diagnostic.Code

/-!
# Phrasebook.Diagnostic.Problem

What can be wrong with a phrasebook, with the data that the message needs.
-/

namespace Phrasebook

/-- Something wrong with a phrasebook. -/
inductive Problem where
  | noJson
  | invalidLanguage (reason : String)
  | keyStartsWithDigit (sentence : String)
  | jsonException (detail : String)
  | noMetadata
  | noVersionFound
  | noLanguagesFound
  | noPhrasesFound
  | invalidJsonFormat (detail : String)
  | extraPhraseArgument (key argument language : String)
  | missingPhraseArgument (key argument language : String)
  | extraTranslation (key language : String)
  | missingTranslation (key language : String)
  | phraseNounDuplicate (key phrase : String)
  | nounIsIncomplete (key language : String)
  | noNounsFound
  | duplicateKey (key : String)
  deriving DecidableEq, Repr

namespace Problem

/-- The kind of diagnostic that reports a problem. -/
def code : Problem → Code
  | noJson => .noJson
  | invalidLanguage _ => .invalidLanguage
  | keyStartsWithDigit _ => .keyStartsWithDigit
  | jsonException _ => .jsonException
  | noMetadata => .noMetadata
  | noVersionFound => .noVersionFound
  | noLanguagesFound => .noLanguagesFound
  | noPhrasesFound => .noPhrasesFound
  | invalidJsonFormat _ => .invalidJsonFormat
  | extraPhraseArgument _ _ _ => .extraPhraseArgument
  | missingPhraseArgument _ _ _ => .missingPhraseArgument
  | extraTranslation _ _ => .extraTranslation
  | missingTranslation _ _ => .missingTranslation
  | phraseNounDuplicate _ _ => .phraseNounDuplicate
  | nounIsIncomplete _ _ => .nounIsIncomplete
  | noNounsFound => .noNounsFound
  | duplicateKey _ => .duplicateKey

/-- A problem in a sentence. -/
def message : Problem → String
  | noJson => "No lingo.json file found"
  | invalidLanguage reason => "Invalid language: " ++ reason
  | keyStartsWithDigit sentence =>
    "The key '" ++ sentence ++ "' starts with a digit, prefixing with 'd'"
  | jsonException detail => "Json exception: " ++ detail
  | noMetadata => "No metadata found in lingo.json"
  | noVersionFound => "lingo.json version is not specified"
  | noLanguagesFound => "There are no supported languages specified in lingo.json"
  | noPhrasesFound => "No phrases found in lingo.json"
  | invalidJsonFormat detail => "Invalid JSON format: " ++ detail
  | extraPhraseArgument key argument language =>
    "Phrase '" ++ key ++ "' has an extra argument '" ++ argument ++ "' in '" ++ language ++ "'"
  | missingPhraseArgument key argument language =>
    "Phrase '" ++ key ++ "' is missing an argument for '" ++ argument ++ "' in '" ++ language ++ "'"
  | extraTranslation key language =>
    "'" ++ key ++ "' has an extra translation for '" ++ language ++ "'"
  | missingTranslation key language =>
    "'" ++ key ++ "' is missing a translation for '" ++ language ++ "'"
  | phraseNounDuplicate key phrase =>
    "Noun '" ++ key ++ "' has a value for the phrase '" ++ phrase ++ "'"
  | nounIsIncomplete key language => "Noun '" ++ key ++ "' is incomplete for '" ++ language ++ "'"
  | noNounsFound => "No nouns found in lingo.json"
  | duplicateKey key => "Duplicate property '" ++ key ++ "', the first occurrence is used"

end Problem

end Phrasebook
