/-!
# Phrasebook.Options

The choices that a caller has where the document format leaves them open.
-/

namespace Phrasebook

/-- What to do when the section of nouns is missing. -/
inductive SectionPolicy where
  | ignore
  | warn
  deriving DecidableEq, Repr

/-- What to do when a name repeats within one object.  The first member with the name counts either
way. -/
inductive DuplicateKeyPolicy where
  | firstWins
  | reject
  deriving DecidableEq, Repr

namespace SectionPolicy

/-- The name of a policy. -/
def name : SectionPolicy → String
  | ignore => "ignore"
  | warn => "warn"

/-- The policy with a name. -/
def ofName? (name : String) : Option SectionPolicy := [ignore, warn].find? (·.name == name)

end SectionPolicy

namespace DuplicateKeyPolicy

/-- The name of a policy. -/
def name : DuplicateKeyPolicy → String
  | firstWins => "first_wins"
  | reject => "reject"

/-- The policy with a name. -/
def ofName? (name : String) : Option DuplicateKeyPolicy :=
  [firstWins, reject].find? (·.name == name)

end DuplicateKeyPolicy

/-- The choices for one check. -/
structure Options where
  missingNouns : SectionPolicy := .ignore
  duplicateKeys : DuplicateKeyPolicy := .firstWins
  /-- Report nouns whose key a phrase has too. -/
  checkPhraseNounCollisions : Bool := true
  deriving DecidableEq, Repr

/-- The choices of a caller who makes none. -/
def Options.standard : Options := {}

end Phrasebook
