import Phrasebook.Diagnostic.Problem
import Phrasebook.Text.LineIndex
import Phrasebook.Token

/-!
# Phrasebook.Diagnostic

Diagnostics: problems with the place in the document where they were found.

Lines and columns count from zero, and columns and lengths count characters.  The byte offset and
the byte length give the same place in bytes; they are kept as reported, also where they lie outside
the text.
-/

namespace Phrasebook

/-- A problem found in a document. -/
structure Diagnostic where
  code : Code
  severity : Severity
  message : String
  /-- The document, as the caller names it. -/
  fileId : String
  line : Nat
  column : Nat
  length : Nat
  offset : Nat
  byteLength : Nat
  deriving DecidableEq, Repr

namespace Diagnostic

/-- The diagnostic of a problem at a place in a text. -/
def locate (fileId : String) (index : Text.LineIndex) (span : Span) (problem : Problem) :
    Diagnostic where
  code := problem.code
  severity := problem.code.severity
  message := problem.message
  fileId := fileId
  line := (index.position span.offset).line
  column := (index.position span.offset).column
  length := index.charCount span.offset span.length
  offset := span.offset
  byteLength := span.length

/-- The diagnostic for a project that has no document: it has no place. -/
def noDocument (fileId : String) : Diagnostic where
  code := Problem.noJson.code
  severity := Problem.noJson.code.severity
  message := Problem.noJson.message
  fileId := fileId
  line := 0
  column := 0
  length := 0
  offset := 0
  byteLength := 0

/-- Whether a diagnostic is an error. -/
def isError (d : Diagnostic) : Bool := d.severity == .error

/-- Where a diagnostic points to, in bytes. -/
def span (d : Diagnostic) : Span := ⟨d.offset, d.byteLength⟩

/-- The text that stands for a diagnostic on its own. -/
def text (d : Diagnostic) : String := d.message

end Diagnostic

end Phrasebook
