import Phrasebook.Document.Reader
import Phrasebook.Options
import Phrasebook.Outcome
import Phrasebook.Validation.Metadata
import Phrasebook.Validation.Noun
import Phrasebook.Validation.Phrase

/-!
# Phrasebook.Validation

The check of a whole document.

1. A text that is no document gives one diagnostic and an empty book.
2. Then come, in this order: repeated names if they are to be rejected, the metadata, the phrases,
   the nouns.  Metadata that cannot be used ends the check with an empty book.
3. A check that is cancelled stops before the first entry, if there is one, and has no outcome.
-/

namespace Phrasebook

/-- A section of the root, if it is an object. -/
def sectionOf? (root : Node) (entries : Section) : Option Node :=
  (root.get? entries.name).filter Node.isObject

/-- The node at which a missing section is reported. -/
def sectionPlace (root : Node) (entries : Section) : Node := (root.get? entries.name).getD root

/-- The phrase of an entry; an entry without one is logged. -/
def checkPhrase (metadata : Metadata) (entry : Property) : Check (Option Phrase) := do
  match ← validatePhrase entry metadata with
  | some phrase => pure (some phrase)
  | none => do
    logEvent (.dropped .phrases entry.name)
    pure none

/-- Reports a noun whose key one of the phrases has. -/
def reportCollision (phrases : List Phrase) (entry : Property) (noun : Noun) : Check Unit :=
  match phrases.find? (·.key == noun.key) with
  | some phrase =>
    reportName entry
      (.phraseNounDuplicate noun.key ((phrase.translations.get? Language.english).getD ""))
  | none => pure ()

/-- The noun of an entry; an entry without one is logged. -/
def checkNoun (options : Options) (metadata : Metadata) (phrases : List Phrase) (entry : Property) :
    Check (Option Noun) := do
  match ← validateNoun entry metadata with
  | some noun => do
    if options.checkPhraseNounCollisions then reportCollision phrases entry noun
    pure (some noun)
  | none => do
    logEvent (.dropped .nouns entry.name)
    pure none

/-- The results of checking the entries of a section; none if the check is cancelled. -/
def checkEntries {α : Type} (cancel : Bool) (entries : Section) (node : Node)
    (check : Property → Check (Option α)) : Check (Option (List α)) :=
  if cancel && !node.properties.isEmpty then do
    logEvent (.cancelled entries)
    pure none
  else do
    let results ← collect check node.properties
    pure (some results)

/-- The phrases of a document. -/
def checkPhrases (cancel : Bool) (root : Node) (metadata : Metadata) :
    Check (Option (List Phrase)) :=
  match sectionOf? root .phrases with
  | some node => checkEntries cancel .phrases node (checkPhrase metadata)
  | none => do
    reportNode (sectionPlace root .phrases) .noPhrasesFound
    pure (some [])

/-- The nouns of a document with these phrases. -/
def checkNouns (options : Options) (cancel : Bool) (root : Node) (metadata : Metadata)
    (phrases : List Phrase) : Check (Option (List Noun)) :=
  match sectionOf? root .nouns with
  | some node => checkEntries cancel .nouns node (checkNoun options metadata phrases)
  | none => do
    if options.missingNouns = .warn then reportNode (sectionPlace root .nouns) .noNounsFound
    pure (some [])

/-- The book of a document with usable metadata. -/
def checkSections (options : Options) (cancel : Bool) (root : Node) (metadata : Metadata) :
    Check (Except Interruption Book) := do
  match ← checkPhrases cancel root metadata with
  | none => pure (.error .cancelled)
  | some phrases =>
    match ← checkNouns options cancel root metadata phrases with
    | none => pure (.error .cancelled)
    | some nouns => do
      let sink ← get
      logEvent (.finished phrases.length nouns.length sink.diagnostics.length)
      pure (.ok ⟨metadata, phrases, nouns⟩)

/-- The book of a document. -/
def checkRoot (options : Options) (cancel : Bool) (root : Node) :
    Check (Except Interruption Book) := do
  logEvent .readingSucceeded
  if options.duplicateKeys = .reject then
    forEach (fun m => reportName m (.duplicateKey m.name)) root.repetitions
  match ← validateMetadata root with
  | none => do
    logEvent .metadataUnusable
    pure (.ok .empty)
  | some metadata => do
    logEvent (.metadataUsable metadata.languages)
    checkSections options cancel root metadata

/-- The book of a text. -/
def checkText (text : String) (options : Options) (cancel : Bool) :
    Check (Except Interruption Book) :=
  match readDocument text with
  | .error fault => do
    logEvent (.readingFailed fault.detail)
    reportAt fault.span (.jsonException fault.detail)
    pure (.ok .empty)
  | .ok root => checkRoot options cancel root

/-- A check that has ended: its outcome, unless it was cancelled, and its log. -/
structure Run where
  outcome : Except Interruption Outcome
  log : List LogEvent

/-- Checks a text that the caller names `fileId`; `cancel` says that the check has been
cancelled. -/
def run (text fileId : String) (options : Options) (cancel : Bool) : Run :=
  let (book, sink) := (checkText text options cancel).run (.ofString text fileId)
  ⟨book.map fun book => ⟨book, sink.diagnostics⟩, sink.log⟩

/-- The outcome of checking a text that the caller names `fileId`. -/
def validate (text fileId : String) (options : Options) : Outcome :=
  match (run text fileId options false).outcome with
  | .ok outcome => outcome
  | .error _ => ⟨.empty, []⟩

/-- The outcome of a check that may have been cancelled. -/
def validateUnlessCancelled (text fileId : String) (options : Options) (cancel : Bool) :
    Except Interruption Outcome :=
  (run text fileId options cancel).outcome

end Phrasebook
