import Phrasebook.Validation
import Phrasebook.Options.Json
import Phrasebook.Outcome.Json
import Phrasebook.Outcome.Yaml
import Phrasebook.Report
import Phrasebook.Options.Yaml
import Phrasebook.Proofs.Additive
import Phrasebook.Proofs.Isolation
import Phrasebook.Proofs.Grammar
import Phrasebook.Proofs.Reading
import Phrasebook.Proofs.Spans
import Phrasebook.Proofs.Consistency
import Phrasebook.Proofs.IdentifierCharacters
import Phrasebook.Proofs.FirstFault
import Phrasebook.Proofs.Lines
import Phrasebook.Proofs.Layout
import Phrasebook.Proofs.Reports
import Phrasebook.Proofs.Keys
import Phrasebook.Proofs.Places
import Phrasebook.Proofs.Locations
import Phrasebook.Proofs.Drops
import Phrasebook.Proofs.Completeness
import Phrasebook.Proofs.Stages
import Phrasebook.Proofs.Lockstep
import Phrasebook.Proofs.Settings
import Phrasebook.Proofs.Meaning
import Phrasebook.Proofs.Lookahead
import Phrasebook.Proofs.Relocation
import Phrasebook.Proofs.Stretches
import Phrasebook.Proofs.Excerpts
import Phrasebook.Proofs.Cancellation
import Phrasebook.Proofs.Repetitions
import Phrasebook.Proofs.Collisions
import Phrasebook.Proofs.JsonText
import Phrasebook.Proofs.RoundTrip
import Phrasebook.Proofs.EntryReading
import Phrasebook.Proofs.PhraseVerdict
import Phrasebook.Proofs.NounAccount
import Phrasebook.Proofs.TranslationOrder
import Phrasebook.Proofs.Literals
import Phrasebook.Proofs.FirstOccurrence
import Phrasebook.Proofs.NumberText
import Phrasebook.Proofs.Lexemes
import Phrasebook.Proofs.LongestMatch
import Phrasebook.Proofs.Insertion
import Phrasebook.Proofs.Segments
import Phrasebook.Proofs.Blocks
import Phrasebook.Proofs.Underscores
import Phrasebook.Proofs.MetadataVerdict
import Phrasebook.Proofs.LowerCase
import Phrasebook.Proofs.StoredLanguages
import Phrasebook.Proofs.LineQueries
import Phrasebook.Proofs.RepeatedReading
import Phrasebook.Proofs.Chronicle
