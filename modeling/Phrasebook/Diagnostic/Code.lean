/-!
# Phrasebook.Diagnostic.Code

The kinds of diagnostics, each with a published number, a name, a title and a severity.

Numbers and names never change once they are published.
-/

namespace Phrasebook

/-- How grave a diagnostic is. -/
inductive Severity where
  | warning
  | error
  deriving DecidableEq, Repr

namespace Severity

/-- The name of a severity in documents that list diagnostics. -/
def name : Severity → String
  | warning => "Warning"
  | error => "Error"

/-- The word for a severity in a sentence. -/
def word : Severity → String
  | warning => "warning"
  | error => "error"

/-- The place of a severity in the order of gravity. -/
def rank : Severity → Nat
  | warning => 0
  | error => 1

/-- All severities. -/
def all : List Severity := [warning, error]

/-- The severity with a name. -/
def ofName? (name : String) : Option Severity := all.find? (·.name == name)

end Severity

/-- A kind of diagnostic. -/
inductive Code where
  | noJson
  | invalidLanguage
  | keyStartsWithDigit
  | jsonException
  | noMetadata
  | noVersionFound
  | noLanguagesFound
  | noPhrasesFound
  | invalidJsonFormat
  | extraPhraseArgument
  | missingPhraseArgument
  | extraTranslation
  | missingTranslation
  | phraseNounDuplicate
  | nounIsIncomplete
  | noNounsFound
  | duplicateKey
  deriving DecidableEq, Repr

namespace Code

/-- All codes, in the order of their numbers. -/
def all : List Code :=
  [noJson, invalidLanguage, keyStartsWithDigit, jsonException, noMetadata, noVersionFound,
    noLanguagesFound, noPhrasesFound, invalidJsonFormat, extraPhraseArgument, missingPhraseArgument,
    extraTranslation, missingTranslation, phraseNounDuplicate, nounIsIncomplete, noNounsFound,
    duplicateKey]

/-- The published number of a code. -/
def number : Code → Nat
  | noJson => 1000
  | invalidLanguage => 1001
  | keyStartsWithDigit => 1002
  | jsonException => 1003
  | noMetadata => 1004
  | noVersionFound => 1005
  | noLanguagesFound => 1006
  | noPhrasesFound => 1007
  | invalidJsonFormat => 1008
  | extraPhraseArgument => 1009
  | missingPhraseArgument => 1010
  | extraTranslation => 1011
  | missingTranslation => 1012
  | phraseNounDuplicate => 1013
  | nounIsIncomplete => 1014
  | noNounsFound => 1015
  | duplicateKey => 1016

/-- The published id of a code. -/
def id (c : Code) : String := "LINGO" ++ toString c.number

/-- The name of a code. -/
def name : Code → String
  | noJson => "NoJson"
  | invalidLanguage => "InvalidLanguage"
  | keyStartsWithDigit => "KeyStartsWithDigit"
  | jsonException => "JsonException"
  | noMetadata => "NoMetaData"
  | noVersionFound => "NoVersionFound"
  | noLanguagesFound => "NoLanguagesFound"
  | noPhrasesFound => "NoPhrasesFound"
  | invalidJsonFormat => "InvalidJsonFormat"
  | extraPhraseArgument => "ExtraPhraseArgument"
  | missingPhraseArgument => "MissingPhraseArgument"
  | extraTranslation => "ExtraTranslation"
  | missingTranslation => "MissingTranslation"
  | phraseNounDuplicate => "PhraseNounDuplicate"
  | nounIsIncomplete => "NounIsIncomplete"
  | noNounsFound => "NoNounsFound"
  | duplicateKey => "DuplicateKey"

/-- The code with a name. -/
def ofName? (name : String) : Option Code := all.find? (·.name == name)

/-- A few words that stand beside the text that a report shows. -/
def title : Code → String
  | noJson => "No lingo.json file found"
  | invalidLanguage => "Invalid language"
  | keyStartsWithDigit => "Key starts with a number"
  | jsonException => "Json exception"
  | noMetadata => "No metadata found"
  | noVersionFound => "Version not specified"
  | noLanguagesFound => "Supported languages not specified"
  | noPhrasesFound => "No phrases found"
  | invalidJsonFormat => "Invalid JSON format"
  | extraPhraseArgument => "Extra argument"
  | missingPhraseArgument => "Missing argument"
  | extraTranslation => "Extra translation"
  | missingTranslation => "Missing translation"
  | phraseNounDuplicate => "There already exists a noun for this phrase"
  | nounIsIncomplete => "Noun is incomplete"
  | noNounsFound => "No nouns found"
  | duplicateKey => "Duplicate property"

/-- How grave a diagnostic of this kind is. -/
def severity : Code → Severity
  | noJson | keyStartsWithDigit | noVersionFound | noPhrasesFound | missingPhraseArgument
  | extraTranslation | noNounsFound => .warning
  | invalidLanguage | jsonException | noMetadata | noLanguagesFound | invalidJsonFormat
  | extraPhraseArgument | missingTranslation | phraseNounDuplicate | nounIsIncomplete
  | duplicateKey => .error

/-- Codes in the order of their numbers. -/
def sort (codes : List Code) : List Code := codes.mergeSort (fun a b => a.number ≤ b.number)

/-- Codes in the order of their severity; codes of one severity stay in their order. -/
def sortBySeverity (codes : List Code) : List Code :=
  codes.mergeSort (fun a b => a.severity.rank ≤ b.severity.rank)

end Code

end Phrasebook
