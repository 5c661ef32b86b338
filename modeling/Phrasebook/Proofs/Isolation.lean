import Phrasebook.Proofs.Additive
import Phrasebook.Validation

/-!
# Phrasebook.Proofs.Isolation

The entries of a document do not influence one another.

Every check of the metadata, of a phrase or of a noun is additive, so that a check of a whole
document is made of independent checks of its parts: the book holds what each part returns on its
own, and the diagnostics are what each part reports on its own, one part behind the other.  Only
collisions look beyond their entry, at the phrases of the book.
-/

namespace Phrasebook

variable {α : Type}

/-! ## the validators are additive -/

theorem additive_readTranslations (expected : String) (read : Node → Option α) (entry : Property) :
    Additive (readTranslations expected read entry) := by
  unfold readTranslations
  split
  · split
    · exact (additive_reportNode _ _).bind fun _ => additive_pure _
    · exact additive_pure _
  · exact (additive_reportNode _ _).bind fun _ => additive_pure _

theorem additive_entryKey (entry : Property) : Additive (entryKey entry) := by
  unfold entryKey
  split
  · next identifier _ =>
    by_cases hd : identifier.digitPrefixed = true
    · rw [if_pos hd]
      exact (additive_reportName _ _).bind fun _ => additive_pure _
    · rw [if_neg hd]
      exact (additive_pure _).bind fun _ => additive_pure _
  · exact (additive_reportName _ _).bind fun _ => additive_pure _

theorem additive_reportMissing (entry : Property) (key : String) (required present : List String) :
    Additive (reportMissing entry key required present) :=
  additive_forEach (fun _ => additive_reportNode _ _) _

theorem additive_reportExtra (key : String) (known : List String)
    (translations : List (Translation α)) : Additive (reportExtra key known translations) :=
  additive_forEach (fun _ => additive_reportNode _ _) _

theorem additive_reportArguments (key : String) (arguments : List String) (t : Translation String) :
    Additive (reportArguments key arguments t) :=
  (additive_forEach (fun _ => additive_reportNode _ _) _).bind fun _ =>
    additive_forEach (fun _ => additive_reportNode _ _) _

theorem additive_phraseOf (entry : Property) (metadata : Metadata)
    (translations : List (Translation String)) (key : String) :
    Additive (phraseOf entry metadata translations key) := by
  refine (additive_reportMissing _ _ _ _).bind fun _ => (additive_reportExtra _ _ _).bind fun _ =>
    (additive_forEach (additive_reportArguments _ _) _).bind fun _ => ?_
  split
  · exact additive_pure _
  · exact (additive_logEvent _).bind fun _ => additive_pure _

theorem additive_validatePhrase (entry : Property) (metadata : Metadata) :
    Additive (validatePhrase entry metadata) :=
  additive_bind_option (additive_readTranslations _ _ _) rfl fun _ =>
    additive_bind_option (additive_entryKey entry) rfl fun _ => additive_phraseOf _ _ _ _

theorem additive_nounOf (entry : Property) (metadata : Metadata)
    (translations : List (Translation (List String))) (key : String) :
    Additive (nounOf entry metadata translations key) :=
  (additive_reportMissing _ _ _ _).bind fun _ => (additive_reportExtra _ _ _).bind fun _ =>
    (additive_forEach (fun _ => additive_reportNode _ _) _).bind fun _ => additive_pure _

theorem additive_validateNoun (entry : Property) (metadata : Metadata) :
    Additive (validateNoun entry metadata) :=
  additive_bind_option (additive_readTranslations _ _ _) rfl fun _ =>
    additive_bind_option (additive_entryKey entry) rfl fun _ =>
      (additive_nounOf _ _ _ _).bind fun _ => additive_pure _

theorem additive_versionOf (metadata : Node) : Additive (versionOf metadata) := by
  unfold versionOf
  split
  · exact (additive_reportNode _ _).bind fun _ => additive_pure _
  · split
    · split
      · exact (additive_reportNode _ _).bind fun _ => additive_pure _
      · exact additive_pure _
    · exact (additive_reportNode _ _).bind fun _ => additive_pure _

theorem additive_languageOf (element : Node) : Additive (languageOf element) := by
  unfold languageOf
  split
  · exact (additive_textOf element).bind fun _ => (additive_reportNode _ _).bind fun _ =>
      additive_pure _
  · split
    · exact additive_pure _
    · exact (additive_logEvent _).bind fun _ => (additive_reportNode _ _).bind fun _ =>
        additive_pure _

theorem additive_metadataOf (node : Node) : Additive (metadataOf node) := by
  refine (additive_versionOf node).bind fun version => ?_
  split
  · exact (additive_reportNode _ _).bind fun _ => additive_pure _
  · exact (additive_collect additive_languageOf _).bind fun _ => additive_pure _

theorem additive_validateMetadata (root : Node) : Additive (validateMetadata root) := by
  unfold validateMetadata
  split
  · exact (additive_reportNode _ _).bind fun _ => additive_pure _
  · split
    · exact additive_metadataOf _
    · exact (additive_reportNode _ _).bind fun _ => additive_pure _

/-! ## the parts of a book -/

/-- What is logged for an entry beside what its validator logs: an entry that gives nothing is
dropped. -/
def dropEvents (entries : Section) (entry : Property) : Option α → List LogEvent
  | none => [.dropped entries entry.name]
  | some _ => []

theorem run_checkPhrase (metadata : Metadata) (entry : Property) (s : Sink) :
    (checkPhrase metadata entry).run s =
      (returned (validatePhrase entry metadata) s,
        s.extend (reported (validatePhrase entry metadata) s)
          (logged (validatePhrase entry metadata) s ++
            dropEvents .phrases entry (returned (validatePhrase entry metadata) s))) := by
  rw [checkPhrase, run_bind, additive_validatePhrase entry metadata s]
  cases returned (validatePhrase entry metadata) s with
  | none =>
      simp only [run_bind, run_logEvent, run_pure, Sink.extend_extend, dropEvents, List.append_nil]
  | some phrase => simp only [run_pure, dropEvents, List.append_nil]

theorem additive_checkPhrase (metadata : Metadata) (entry : Property) :
    Additive (checkPhrase metadata entry) :=
  Additive.of_run (run_checkPhrase metadata entry) (fun _ => rfl) (fun _ => rfl) fun _ => rfl

@[simp] theorem returned_checkPhrase (metadata : Metadata) (entry : Property) (s : Sink) :
    returned (checkPhrase metadata entry) s = returned (validatePhrase entry metadata) s :=
  (parts_of_run (run_checkPhrase metadata entry) s).1

@[simp] theorem reported_checkPhrase (metadata : Metadata) (entry : Property) (s : Sink) :
    reported (checkPhrase metadata entry) s = reported (validatePhrase entry metadata) s :=
  (parts_of_run (run_checkPhrase metadata entry) s).2.1

@[simp] theorem logged_checkPhrase (metadata : Metadata) (entry : Property) (s : Sink) :
    logged (checkPhrase metadata entry) s =
      logged (validatePhrase entry metadata) s ++
        dropEvents .phrases entry (returned (validatePhrase entry metadata) s) :=
  (parts_of_run (run_checkPhrase metadata entry) s).2.2

/-- The diagnostic of a noun whose key one of the phrases has. -/
def collisionReports (phrases : List Phrase) (entry : Property) (noun : Noun) (s : Sink) :
    List Diagnostic :=
  match phrases.find? (·.key == noun.key) with
  | some phrase =>
    [s.locate entry.nameSpan
      (.phraseNounDuplicate noun.key ((phrase.translations.get? Language.english).getD ""))]
  | none => []

@[simp] theorem collisionReports_extend (phrases : List Phrase) (entry : Property) (noun : Noun)
    (s : Sink) (ds : List Diagnostic) (es : List LogEvent) :
    collisionReports phrases entry noun (s.extend ds es) = collisionReports phrases entry noun s :=
  rfl

theorem run_reportCollision (phrases : List Phrase) (entry : Property) (noun : Noun) (s : Sink) :
    (reportCollision phrases entry noun).run s =
      ((), s.extend (collisionReports phrases entry noun s) []) := by
  rw [reportCollision, collisionReports]
  cases phrases.find? (·.key == noun.key) with
  | none => rw [Sink.extend_nil, run_pure]
  | some phrase => exact run_reportName entry _ s

/-- What is reported for the noun of an entry beside what its validator reports. -/
def nounCollisions (options : Options) (phrases : List Phrase) (entry : Property) (s : Sink) :
    Option Noun → List Diagnostic
  | none => []
  | some noun =>
    if options.checkPhraseNounCollisions then collisionReports phrases entry noun s else []

theorem run_checkNoun (options : Options) (metadata : Metadata) (phrases : List Phrase)
    (entry : Property) (s : Sink) :
    (checkNoun options metadata phrases entry).run s =
      (returned (validateNoun entry metadata) s,
        s.extend
          (reported (validateNoun entry metadata) s ++
            nounCollisions options phrases entry s (returned (validateNoun entry metadata) s))
          (logged (validateNoun entry metadata) s ++
            dropEvents .nouns entry (returned (validateNoun entry metadata) s))) := by
  rw [checkNoun, run_bind, additive_validateNoun entry metadata s]
  cases returned (validateNoun entry metadata) s with
  | none =>
      simp only [run_bind, run_logEvent, run_pure, Sink.extend_extend, dropEvents, nounCollisions]
  | some noun =>
      by_cases hc : options.checkPhraseNounCollisions = true
      · simp only [hc, if_true, run_bind, run_reportCollision, run_pure, Sink.extend_extend,
          collisionReports_extend, dropEvents, nounCollisions]
      · simp only [hc, Bool.false_eq_true, if_false, run_pure, dropEvents, nounCollisions,
          List.append_nil]

theorem additive_checkNoun (options : Options) (metadata : Metadata) (phrases : List Phrase)
    (entry : Property) : Additive (checkNoun options metadata phrases entry) :=
  Additive.of_run (run_checkNoun options metadata phrases entry) (fun _ => rfl) (fun _ => rfl)
    fun _ => rfl

@[simp] theorem returned_checkNoun (options : Options) (metadata : Metadata) (phrases : List Phrase)
    (entry : Property) (s : Sink) :
    returned (checkNoun options metadata phrases entry) s =
      returned (validateNoun entry metadata) s :=
  (parts_of_run (run_checkNoun options metadata phrases entry) s).1

@[simp] theorem reported_checkNoun (options : Options) (metadata : Metadata) (phrases : List Phrase)
    (entry : Property) (s : Sink) :
    reported (checkNoun options metadata phrases entry) s =
      reported (validateNoun entry metadata) s ++
        nounCollisions options phrases entry s (returned (validateNoun entry metadata) s) :=
  (parts_of_run (run_checkNoun options metadata phrases entry) s).2.1

@[simp] theorem logged_checkNoun (options : Options) (metadata : Metadata) (phrases : List Phrase)
    (entry : Property) (s : Sink) :
    logged (checkNoun options metadata phrases entry) s =
      logged (validateNoun entry metadata) s ++
        dropEvents .nouns entry (returned (validateNoun entry metadata) s) :=
  (parts_of_run (run_checkNoun options metadata phrases entry) s).2.2

/-! ## the sections -/

/-- A section that is not cancelled adds what its entries give, each on its own. -/
theorem run_checkEntries {check : Property → Check (Option α)}
    (hc : ∀ entry, Additive (check entry)) (entries : Section) (node : Node) (s : Sink) :
    (checkEntries false entries node check).run s =
      (some (node.properties.filterMap fun entry => returned (check entry) s),
        s.extend (node.properties.flatMap fun entry => reported (check entry) s)
          (node.properties.flatMap fun entry => logged (check entry) s)) := by
  show (collect check node.properties >>= fun results => pure (some results)).run s = _
  rw [run_bind, additive_collect hc node.properties s, returned_collect hc, reported_collect hc,
    logged_collect hc, run_pure]

/-- The phrases of a document: what its entries give, each on its own. -/
def phrasesOf (root : Node) (metadata : Metadata) (s : Sink) : List Phrase :=
  match sectionOf? root .phrases with
  | some node => node.properties.filterMap fun entry => returned (validatePhrase entry metadata) s
  | none => []

/-- The diagnostics of the section of phrases: those of its entries, each on its own. -/
def phraseReports (root : Node) (metadata : Metadata) (s : Sink) : List Diagnostic :=
  match sectionOf? root .phrases with
  | some node => node.properties.flatMap fun entry => reported (validatePhrase entry metadata) s
  | none => [s.locate (sectionPlace root .phrases).span .noPhrasesFound]

/-- The log events of the section of phrases. -/
def phraseEvents (root : Node) (metadata : Metadata) (s : Sink) : List LogEvent :=
  match sectionOf? root .phrases with
  | some node => node.properties.flatMap fun entry =>
      logged (validatePhrase entry metadata) s ++
        dropEvents .phrases entry (returned (validatePhrase entry metadata) s)
  | none => []

/-- The nouns of a document: what its entries give, each on its own. -/
def nounsOf (root : Node) (metadata : Metadata) (s : Sink) : List Noun :=
  match sectionOf? root .nouns with
  | some node => node.properties.filterMap fun entry => returned (validateNoun entry metadata) s
  | none => []

/-- The diagnostics of the section of nouns: those of its entries, each on its own, and behind those
of an entry its collision with the phrases, if it has one. -/
def nounReports (options : Options) (root : Node) (metadata : Metadata) (phrases : List Phrase)
    (s : Sink) : List Diagnostic :=
  match sectionOf? root .nouns with
  | some node => node.properties.flatMap fun entry =>
      reported (validateNoun entry metadata) s ++
        nounCollisions options phrases entry s (returned (validateNoun entry metadata) s)
  | none =>
    if options.missingNouns = .warn then [s.locate (sectionPlace root .nouns).span .noNounsFound]
    else []

/-- The log events of the section of nouns. -/
def nounEvents (root : Node) (metadata : Metadata) (s : Sink) : List LogEvent :=
  match sectionOf? root .nouns with
  | some node => node.properties.flatMap fun entry =>
      logged (validateNoun entry metadata) s ++
        dropEvents .nouns entry (returned (validateNoun entry metadata) s)
  | none => []

section extend

variable (root : Node) (metadata : Metadata) (s : Sink) (ds : List Diagnostic) (es : List LogEvent)

@[simp] theorem phrasesOf_extend :
    phrasesOf root metadata (s.extend ds es) = phrasesOf root metadata s := rfl

@[simp] theorem phraseEvents_extend :
    phraseEvents root metadata (s.extend ds es) = phraseEvents root metadata s := rfl

@[simp] theorem nounsOf_extend : nounsOf root metadata (s.extend ds es) = nounsOf root metadata s :=
  rfl

@[simp] theorem nounReports_extend (options : Options) (phrases : List Phrase) :
    nounReports options root metadata phrases (s.extend ds es) =
      nounReports options root metadata phrases s := rfl

@[simp] theorem nounEvents_extend :
    nounEvents root metadata (s.extend ds es) = nounEvents root metadata s := rfl

end extend

theorem run_checkPhrases (root : Node) (metadata : Metadata) (s : Sink) :
    (checkPhrases false root metadata).run s =
      (some (phrasesOf root metadata s),
        s.extend (phraseReports root metadata s) (phraseEvents root metadata s)) := by
  unfold checkPhrases phrasesOf phraseReports phraseEvents
  cases sectionOf? root .phrases with
  | none => simp only [run_bind, run_reportNode, run_pure]
  | some node =>
      simp only [run_checkEntries (additive_checkPhrase metadata), returned_checkPhrase,
        reported_checkPhrase, logged_checkPhrase]

theorem run_checkNouns (options : Options) (root : Node) (metadata : Metadata)
    (phrases : List Phrase) (s : Sink) :
    (checkNouns options false root metadata phrases).run s =
      (some (nounsOf root metadata s),
        s.extend (nounReports options root metadata phrases s) (nounEvents root metadata s)) := by
  unfold checkNouns nounsOf nounReports nounEvents
  cases sectionOf? root .nouns with
  | none =>
      by_cases hw : options.missingNouns = .warn
      · simp only [hw, if_true, run_bind, run_reportNode, run_pure]
      · simp only [hw, if_false, run_pure, Sink.extend_nil]
  | some node =>
      simp only [run_checkEntries (additive_checkNoun options metadata phrases), returned_checkNoun,
        reported_checkNoun, logged_checkNoun]

/-! ## the whole run -/

/-- The diagnostics of repeated names, where these are rejected. -/
def repetitionReports (options : Options) (root : Node) (s : Sink) : List Diagnostic :=
  if options.duplicateKeys = .reject then
    root.repetitions.map fun m => s.locate m.nameSpan (.duplicateKey m.name)
  else []

/-- The diagnostics that stand before those of the sections. -/
def headReports (options : Options) (root : Node) (s : Sink) : List Diagnostic :=
  repetitionReports options root s ++ reported (validateMetadata root) s

/-- The diagnostics of both sections of a document. -/
def sectionReports (options : Options) (root : Node) (metadata : Metadata) (s : Sink) :
    List Diagnostic :=
  phraseReports root metadata s ++ nounReports options root metadata (phrasesOf root metadata s) s

@[simp] theorem sectionReports_extend (options : Options) (root : Node) (metadata : Metadata)
    (s : Sink) (ds : List Diagnostic) (es : List LogEvent) :
    sectionReports options root metadata (s.extend ds es) =
      sectionReports options root metadata s :=
  rfl

/-- The sections of a document give the book of their entries.  The last event counts all
diagnostics, so that it alone depends on what was reported before. -/
theorem run_checkSections (options : Options) (root : Node) (metadata : Metadata) (s : Sink) :
    (checkSections options false root metadata).run s =
      (.ok ⟨metadata, phrasesOf root metadata s, nounsOf root metadata s⟩,
        s.extend (sectionReports options root metadata s)
          (phraseEvents root metadata s ++ nounEvents root metadata s ++
            [.finished (phrasesOf root metadata s).length (nounsOf root metadata s).length
              (s.diagnostics ++ sectionReports options root metadata s).length])) := by
  simp only [checkSections, run_bind, run_checkPhrases, run_checkNouns, run_get, run_logEvent,
    run_pure, nounsOf_extend, nounReports_extend, nounEvents_extend, Sink.extend_extend,
    Sink.diagnostics_extend, sectionReports, List.append_nil, List.append_assoc]

theorem run_reportRepetitions (properties : List Property) (s : Sink) :
    (forEach (fun m : Property => reportName m (.duplicateKey m.name)) properties).run s =
      ((), s.extend (properties.map fun m => s.locate m.nameSpan (.duplicateKey m.name)) []) := by
  rw [run_forEach fun m => additive_reportName m _]
  simp only [reported_reportName, logged_reportName, ← List.map_eq_flatMap]
  rw [List.flatMap_eq_nil_iff.2 fun _ _ => rfl]

/-- Before the sections, repeated names and the metadata are checked, whether or not the metadata
can be used. -/
theorem run_checkRoot (options : Options) (root : Node) (cancel : Bool) (s : Sink) :
    (checkRoot options cancel root).run s =
      (match returned (validateMetadata root) s with
        | none => do
          logEvent .metadataUnusable
          pure (.ok .empty)
        | some metadata => do
          logEvent (.metadataUsable metadata.languages)
          checkSections options cancel root metadata : Check (Except Interruption Book)).run
        (s.extend (headReports options root s)
          (.readingSucceeded :: logged (validateMetadata root) s)) := by
  unfold checkRoot headReports repetitionReports
  by_cases hd : options.duplicateKeys = .reject
  · simp only [hd, if_true, run_bind, run_logEvent, run_reportRepetitions,
      additive_validateMetadata root _, returned_extend, reported_extend, logged_extend,
      Sink.extend_extend, Sink.locate_extend]
    cases returned (validateMetadata root) s <;> rfl
  · simp only [hd, if_false, run_bind, run_logEvent,
      additive_validateMetadata root _, returned_extend, reported_extend, logged_extend,
      Sink.extend_extend]
    cases returned (validateMetadata root) s <;> rfl

/-! ## the whole run -/

section run

variable {text fileId : String} {options : Options} {cancel : Bool}

theorem run_eq :
    run text fileId options cancel =
      let (book, sink) := (checkText text options cancel).run (.ofString text fileId)
      ⟨book.map fun book => ⟨book, sink.diagnostics⟩, sink.log⟩ := rfl

/-- A text that is no document. -/
theorem run_of_fault {fault : Fault} (h : readDocument text = .error fault) :
    run text fileId options cancel =
      ⟨.ok ⟨.empty, [(Sink.ofString text fileId).locate fault.span (.jsonException fault.detail)]⟩,
        [.readingFailed fault.detail]⟩ := by
  rw [run, checkText, h]
  rfl

variable {root : Node} (h : readDocument text = .ok root)

include h

theorem checkText_of_document : checkText text options cancel = checkRoot options cancel root := by
  rw [checkText, h]

/-- A document whose metadata cannot be used. -/
theorem run_of_unusable
    (hm : returned (validateMetadata root) (.ofString text fileId) = none) :
    run text fileId options cancel =
      ⟨.ok ⟨.empty, headReports options root (.ofString text fileId)⟩,
        .readingSucceeded :: logged (validateMetadata root) (.ofString text fileId) ++
          [.metadataUnusable]⟩ := by
  rw [run_eq, checkText_of_document h, run_checkRoot, hm]
  simp only [run_bind, run_logEvent, run_pure, Sink.extend_extend, Sink.diagnostics_extend,
    Sink.diagnostics_ofString, Sink.log_extend, Sink.log_ofString, List.append_nil, List.nil_append,
    Except.map]

/-- A document whose metadata can be used. -/
theorem run_of_usable {metadata : Metadata}
    (hm : returned (validateMetadata root) (.ofString text fileId) = some metadata) :
    run text fileId options false =
      let s := Sink.ofString text fileId
      let reports := headReports options root s ++ sectionReports options root metadata s
      let book := ⟨metadata, phrasesOf root metadata s, nounsOf root metadata s⟩
      ⟨.ok ⟨book, reports⟩,
        .readingSucceeded :: logged (validateMetadata root) s ++
          (.metadataUsable metadata.languages :: phraseEvents root metadata s ++
            nounEvents root metadata s ++
            [.finished book.phrases.length book.nouns.length reports.length])⟩ := by
  rw [run_eq, checkText_of_document h, run_checkRoot, hm]
  simp only [run_bind, run_logEvent, run_checkSections, Sink.extend_extend, Sink.diagnostics_extend,
    Sink.diagnostics_ofString, Sink.log_extend, Sink.log_ofString, phrasesOf_extend, nounsOf_extend,
    phraseEvents_extend, nounEvents_extend, sectionReports_extend, List.append_nil, List.nil_append,
    List.append_assoc, List.cons_append, Except.map]

end run

/-- **Entries are isolated**: the run of a document with usable metadata is put together from
independent runs of its parts, each on the text about which nothing has been said.  Whatever a sink
holds already, the validators return and add what they return and add on their own. -/
theorem run_isolates_entries (text fileId : String) (options : Options) :
    (∀ root metadata, readDocument text = .ok root →
      returned (validateMetadata root) (.ofString text fileId) = some metadata →
      let fresh := Sink.ofString text fileId
      let phrases := phrasesOf root metadata fresh
      (run text fileId options false).outcome = .ok
        { data := ⟨metadata, phrases, nounsOf root metadata fresh⟩
          diagnostics :=
            repetitionReports options root fresh ++ reported (validateMetadata root) fresh ++
              phraseReports root metadata fresh ++
              nounReports options root metadata phrases fresh }) ∧
    (∀ root, Additive (validateMetadata root)) ∧
    (∀ entry metadata, Additive (validatePhrase entry metadata)) ∧
    (∀ entry metadata, Additive (validateNoun entry metadata)) := by
  refine ⟨fun root metadata h hm => ?_, additive_validateMetadata, additive_validatePhrase,
    additive_validateNoun⟩
  rw [run_of_usable h hm]
  simp only [headReports, sectionReports, List.append_assoc]

/-- A document without a version whose noun collides with its phrase. -/
def collidingText : String :=
  "\x7bmetadata:\x7blanguages:['en']\x7d,phrases:\x7bHi:\x7b\x7d\x7d," ++
    "nouns:\x7bHi:\x7ben:['a','b']\x7d\x7d\x7d"

/-- What `collidingText` is read as. -/
def collidingRoot : Node :=
  .object ⟨0, 71⟩
    [⟨"metadata", ⟨1, 8⟩,
        .object ⟨10, 18⟩ [⟨"languages", ⟨11, 9⟩, .array ⟨21, 6⟩ [.string ⟨22, 4⟩ "en"], false⟩],
        false⟩,
      ⟨"phrases", ⟨29, 7⟩, .object ⟨37, 7⟩ [⟨"Hi", ⟨38, 2⟩, .object ⟨41, 2⟩ [], false⟩], false⟩,
      ⟨"nouns", ⟨45, 5⟩,
        .object ⟨51, 19⟩
          [⟨"Hi", ⟨52, 2⟩,
            .object ⟨55, 14⟩
              [⟨"en", ⟨56, 2⟩, .array ⟨59, 9⟩ [.string ⟨60, 3⟩ "a", .string ⟨64, 3⟩ "b"], false⟩],
            false⟩], false⟩]

theorem run_isolates_entries_collidingText :
    let fresh := Sink.ofString collidingText "book"
    let phrases := phrasesOf collidingRoot ⟨["en"], ""⟩ fresh
    readDocument collidingText = .ok collidingRoot ∧
      returned (validateMetadata collidingRoot) fresh = some ⟨["en"], ""⟩ ∧
      (run collidingText "book" {} false).outcome = .ok
        { data := ⟨⟨["en"], ""⟩, phrases, nounsOf collidingRoot ⟨["en"], ""⟩ fresh⟩
          diagnostics :=
            repetitionReports {} collidingRoot fresh ++
              reported (validateMetadata collidingRoot) fresh ++
              phraseReports collidingRoot ⟨["en"], ""⟩ fresh ++
              nounReports {} collidingRoot ⟨["en"], ""⟩ phrases fresh } := by
  have hroot : readDocument collidingText = .ok collidingRoot := by
    set_option maxRecDepth 2000 in with_unfolding_all rfl
  have hmeta : returned (validateMetadata collidingRoot) (.ofString collidingText "book") =
      some ⟨["en"], ""⟩ := by decide +kernel
  exact ⟨hroot, hmeta, (run_isolates_entries collidingText "book" {}).1 _ _ hroot hmeta⟩

end Phrasebook
