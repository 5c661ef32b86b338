import Phrasebook.Language
import Phrasebook.Text.Quoted

/-!
# Phrasebook.Diagnostic.Log

What a check of a document tells about its own course, for those who look into how it came to its
result.
-/

namespace Phrasebook

/-- How much attention a log record asks for. -/
inductive LogLevel where
  | trace
  | debug
  | warn
  deriving DecidableEq, Repr

/-- A section of a document that holds entries. -/
inductive Section where
  | phrases
  | nouns
  deriving DecidableEq, Repr

/-- The name of a section. -/
def Section.name : Section → String
  | phrases => "phrases"
  | nouns => "nouns"

/-- An entry of a section, in a word. -/
def Section.entry : Section → String
  | phrases => "phrase"
  | nouns => "noun"

/-- An event in the course of a check. -/
inductive LogEvent where
  | readingFailed (detail : String)
  | readingSucceeded
  | languageRejected (code : String) (error : Language.Error)
  | metadataUnusable
  | metadataUsable (languages : List String)
  /-- A phrase is given up since a translation uses an argument that the sentence does not have. -/
  | unknownArgument (key : String)
  | dropped (entries : Section) (sentence : String)
  | cancelled (entries : Section)
  | finished (phrases nouns diagnostics : Nat)
  deriving DecidableEq, Repr

namespace LogEvent

/-- The level at which an event is logged. -/
def level : LogEvent → LogLevel
  | readingFailed _ | readingSucceeded | metadataUnusable | metadataUsable _
  | finished _ _ _ => .debug
  | languageRejected _ _ | unknownArgument _ | dropped _ _ => .trace
  | cancelled _ => .warn

/-- The log message of an event in the check of a document. -/
def message (fileId : String) : LogEvent → String
  | readingFailed detail => fileId ++ ": structural parse failed: " ++ detail
  | readingSucceeded => fileId ++ ": structural parse ok"
  | languageRejected code error =>
    "rejected language " ++ Text.quoted code ++ ": " ++ error.message
  | metadataUnusable => fileId ++ ": metadata unusable, skipping phrases and nouns"
  | metadataUsable languages =>
    fileId ++ ": metadata ok, languages " ++ Text.quotedList languages
  | unknownArgument key =>
    "dropping phrase " ++ key ++ ": a translation uses an unknown argument"
  | dropped entries sentence =>
    fileId ++ ": dropped " ++ entries.entry ++ " " ++ Text.quoted sentence
  | cancelled entries => fileId ++ ": cancelled while scanning " ++ entries.name
  | finished phrases nouns diagnostics =>
    fileId ++ ": done, " ++ toString phrases ++ " phrases, " ++ toString nouns ++ " nouns, "
      ++ toString diagnostics ++ " diagnostics"

end LogEvent

end Phrasebook
