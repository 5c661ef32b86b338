import Phrasebook.Diagnostic
import Phrasebook.Model

/-!
# Phrasebook.Outcome

What comes of a check: what could be made of the document, and all diagnostics in the order in which
they were found.
-/

namespace Phrasebook

/-- The book of a document, and what was found wrong with it. -/
structure Outcome where
  data : Book
  diagnostics : List Diagnostic
  deriving DecidableEq, Repr

namespace Outcome

/-- The diagnostics that are errors. -/
def errors (o : Outcome) : List Diagnostic := o.diagnostics.filter (·.severity == .error)

/-- The diagnostics that are warnings. -/
def warnings (o : Outcome) : List Diagnostic := o.diagnostics.filter (·.severity == .warning)

/-- Whether a diagnostic is an error. -/
def hasErrors (o : Outcome) : Bool := o.diagnostics.any (·.isError)

end Outcome

/-- Why a check has no outcome. -/
inductive Interruption where
  | cancelled
  deriving DecidableEq, Repr

namespace Interruption

/-- The interruption in words. -/
def message : Interruption → String
  | cancelled => "Parsing was cancelled before all entries were validated"

/-- The published code of an interruption. -/
def code : Interruption → String
  | cancelled => "lingo::cancelled"

end Interruption

end Phrasebook
