import Phrasebook.Proofs.Cancellation
import Phrasebook.Proofs.Collisions
import Phrasebook.Proofs.Completeness
import Phrasebook.Proofs.MetadataVerdict
import Phrasebook.Proofs.PhraseVerdict

/-!
# Phrasebook.Proofs.Chronicle

The log of a check tells the same as its outcome.

`Chronicle` says what a log has to tell, by the tree of the document and by the outcome alone:

```text
unreadable = readingFailed
unusable   = readingSucceeded languageRejected* metadataUnusable
finished   = readingSucceeded languageRejected* metadataUsable phrases nouns finished
```

Each diagnostic that refuses a text as a language has one event.  The entries of a section are told
one behind the other (`Recorded`): nothing is said of an entry that the book has, and any other
entry is dropped.

The events of one entry are found first (`phraseRecord_validatePhrase`, `nounRecord_validateNoun`);
those of a section follow by induction on its entries (`recorded_of_forall`).
-/

namespace Phrasebook

/-! ## what a log has to tell -/

/-- The elements that declare languages, if there are any in their place. -/
def Node.declarations? (root : Node) : Option (List Node) := root.metadata?.bind Node.languages?

/-- The text that stands at a place as the name of a language; none if no element is declared there,
or one that is no string. -/
def Node.declaredText? (root : Node) (place : Span) : Option String :=
  ((root.declarations?.getD []).find? (·.span == place)).bind Node.text?

/-- The diagnostics that refuse a text as a language. -/
def textRefusals (root : Node) (ds : List Diagnostic) : List Diagnostic :=
  (ofKind .invalidLanguage ds).filter fun d => (root.declaredText? d.span).isSome

/-- An event tells of the same refusal as a diagnostic: it has the text at the place, and the reason
that the message gives. -/
def TellsRefusal (root : Node) (d : Diagnostic) (event : LogEvent) : Prop :=
  ∃ code error, root.declaredText? d.span = some code ∧ Language.validate code = .error error ∧
    d.message = (Problem.invalidLanguage error.message).message ∧
    event = .languageRejected code error

/-- An entry is reported for an argument that its sentence does not have. -/
def StrayReported (ds : List Diagnostic) (entry : Property) : Prop :=
  ∃ d ∈ ds, d.code = .extraPhraseArgument ∧ entry.Holds d.span

/-- The book has no phrase with the sentence of an entry, and a diagnostic says why. -/
structure LacksPhrase (outcome : Outcome) (entry : Property) : Prop where
  absent : ∀ phrase ∈ outcome.data.phrases,
    phrase.translations.get? Language.english ≠ some entry.name
  explained : ¬ Kept .phrases outcome.diagnostics entry

/-- What the book has of an entry of the phrases, and the events that tell of it. -/
inductive PhraseRecord (outcome : Outcome) (entry : Property) :
    Option Phrase → List LogEvent → Prop where
  | kept {phrase : Phrase} :
      phrase ∈ outcome.data.phrases → phrase.translations.get? Language.english = some entry.name →
      Kept .phrases outcome.diagnostics entry → PhraseRecord outcome entry (some phrase) []
  /-- The entry is dropped for an argument that its sentence does not have. -/
  | strayed {identifier : Identifier} :
      LacksPhrase outcome entry → StrayReported outcome.diagnostics entry →
      Identifier.ofSentence entry.name = .ok identifier →
      PhraseRecord outcome entry none
        [.unknownArgument identifier.text, .dropped .phrases entry.name]
  /-- The entry is dropped for something else. -/
  | dropped :
      LacksPhrase outcome entry → ¬ StrayReported outcome.diagnostics entry →
      PhraseRecord outcome entry none [.dropped .phrases entry.name]

/-- What the book has of an entry of the nouns, and the events that tell of it. -/
inductive NounRecord (outcome : Outcome) (entry : Property) :
    Option Noun → List LogEvent → Prop where
  | kept {noun : Noun} {identifier : Identifier} :
      Identifier.ofSentence entry.name = .ok identifier → noun.key = identifier.text →
      Kept .nouns outcome.diagnostics entry → NounRecord outcome entry (some noun) []
  | dropped :
      ¬ Kept .nouns outcome.diagnostics entry →
      NounRecord outcome entry none [.dropped .nouns entry.name]

/-- The entries of a section, what the book has of them and the events that tell of them, one entry
behind the other. -/
inductive Recorded {α : Type} (record : Property → Option α → List LogEvent → Prop) :
    List Property → List α → List LogEvent → Prop where
  | nil : Recorded record [] [] []
  | cons {entry : Property} {item? : Option α} {own : List LogEvent} {entries : List Property}
      {items : List α} {events : List LogEvent} :
      record entry item? own → Recorded record entries items events →
      Recorded record (entry :: entries) (item?.toList ++ items) (own ++ events)

/-- What the log of a check has to tell. -/
inductive Chronicle (text : String) (outcome : Outcome) : List LogEvent → Prop where
  /-- The text is no document. -/
  | unreadable {fault : Fault} :
      readDocument text = .error fault → Chronicle text outcome [.readingFailed fault.detail]
  /-- The metadata of the document cannot be used. -/
  | unusable {root : Node} {refusals : List LogEvent} :
      readDocument text = .ok root → root.declarations? = none →
      List.Forall₂ (TellsRefusal root) (textRefusals root outcome.diagnostics) refusals →
      Chronicle text outcome (.readingSucceeded :: refusals ++ [.metadataUnusable])
  /-- Both sections are checked. -/
  | finished {root : Node} {elements : List Node} {refusals phrases nouns : List LogEvent} :
      readDocument text = .ok root → root.declarations? = some elements →
      List.Forall₂ (TellsRefusal root) (textRefusals root outcome.diagnostics) refusals →
      Recorded (PhraseRecord outcome) (firstMembers root .phrases) outcome.data.phrases phrases →
      Recorded (NounRecord outcome) (firstMembers root .nouns) outcome.data.nouns nouns →
      Chronicle text outcome
        (.readingSucceeded :: refusals ++
          (.metadataUsable outcome.data.metadata.languages :: phrases ++ nouns ++
            [.finished outcome.data.phrases.length outcome.data.nouns.length
              outcome.diagnostics.length]))

/-! ## one log for each outcome -/

section unique

variable {α : Type} {root : Node} {outcome : Outcome} {entry : Property}

theorem TellsRefusal.unique {d : Diagnostic} {event event' : LogEvent}
    (h : TellsRefusal root d event) (h' : TellsRefusal root d event') : event = event' := by
  obtain ⟨code, error, htext, herror, -, rfl⟩ := h
  obtain ⟨code', error', htext', herror', -, rfl⟩ := h'
  cases htext.symm.trans htext'
  cases herror.symm.trans herror'
  rfl

theorem refusals_unique {ds : List Diagnostic} {events events' : List LogEvent}
    (h : List.Forall₂ (TellsRefusal root) ds events)
    (h' : List.Forall₂ (TellsRefusal root) ds events') : events = events' :=
  List.right_unique_forall₂' (fun _ _ _ hb hc => hb.unique hc) h h'

theorem PhraseRecord.unique {item? item?' : Option Phrase} {events events' : List LogEvent}
    (h : PhraseRecord outcome entry item? events) (h' : PhraseRecord outcome entry item?' events') :
    events = events' := by
  cases h with
  | kept _ _ hkept =>
      cases h' with
      | kept => rfl
      | strayed hlacks | dropped hlacks => exact absurd hkept hlacks.explained
  | strayed hlacks hstray hid =>
      cases h' with
      | kept _ _ hkept => exact absurd hkept hlacks.explained
      | strayed _ _ hid' =>
          cases hid.symm.trans hid'
          rfl
      | dropped _ hnone => exact absurd hstray hnone
  | dropped hlacks hnone =>
      cases h' with
      | kept _ _ hkept => exact absurd hkept hlacks.explained
      | strayed _ hstray => exact absurd hstray hnone
      | dropped => rfl

theorem NounRecord.unique {item? item?' : Option Noun} {events events' : List LogEvent}
    (h : NounRecord outcome entry item? events) (h' : NounRecord outcome entry item?' events') :
    events = events' := by
  cases h with
  | kept _ _ hkept =>
      cases h' with
      | kept => rfl
      | dropped hnot => exact absurd hkept hnot
  | dropped hnot =>
      cases h' with
      | kept _ _ hkept => exact absurd hkept hnot
      | dropped => rfl

/-- Where each entry has one record, so has a section. -/
theorem Recorded.unique {record : Property → Option α → List LogEvent → Prop}
    {entries : List Property} {items items' : List α} {events events' : List LogEvent}
    (h : Recorded record entries items events) (h' : Recorded record entries items' events')
    (hrecord : ∀ entry item? item?' own own', record entry item? own →
      record entry item?' own' → own = own') :
    events = events' := by
  induction h generalizing items' events' with
  | nil =>
      cases h'
      rfl
  | cons hentry _ ih =>
      cases h' with
      | cons hentry' hrest => rw [hrecord _ _ _ _ _ hentry hentry', ih hrest]

/-- No outcome has two logs. -/
theorem Chronicle.unique {text : String} {log log' : List LogEvent} (h : Chronicle text outcome log)
    (h' : Chronicle text outcome log') : log = log' := by
  cases h with
  | unreadable hread =>
      cases h' with
      | unreadable hread' =>
          cases hread.symm.trans hread'
          rfl
      | unusable hread' | finished hread' => cases hread.symm.trans hread'
  | unusable hread hnone hrefusals =>
      cases h' with
      | unreadable hread' => cases hread.symm.trans hread'
      | unusable hread' _ hrefusals' =>
          cases hread.symm.trans hread'
          rw [refusals_unique hrefusals hrefusals']
      | finished hread' hsome =>
          cases hread.symm.trans hread'
          cases hnone.symm.trans hsome
  | finished hread hsome hrefusals hphrases hnouns =>
      cases h' with
      | unreadable hread' => cases hread.symm.trans hread'
      | unusable hread' hnone =>
          cases hread.symm.trans hread'
          cases hnone.symm.trans hsome
      | finished hread' _ hrefusals' hphrases' hnouns' =>
          cases hread.symm.trans hread'
          rw [refusals_unique hrefusals hrefusals',
            hphrases.unique hphrases' fun _ _ _ _ _ => PhraseRecord.unique,
            hnouns.unique hnouns' fun _ _ _ _ _ => NounRecord.unique]

end unique

/-! ## what the checks of entries log -/

section entries

variable {α β : Type} {entry : Property} {metadata : Metadata} {s : Sink}

theorem logged_readTranslations (expected : String) (read : Node → Option α)
    (entry : Property) (s : Sink) : logged (readTranslations expected read entry) s = [] := by
  unfold readTranslations
  split
  · split <;> rfl
  · rfl

theorem logged_entryKey (entry : Property) (s : Sink) : logged (entryKey entry) s = [] := by
  unfold entryKey
  split
  next identifier _ => cases hd : identifier.digitPrefixed <;> rfl
  next => rfl

/-- Reading an entry logs nothing beside what is logged about its translations and its key. -/
theorem logged_readEntry {next : List (Translation α) → String → Check (Option β)}
    (hnext : ∀ translations key, Additive (next translations key)) (expected : String)
    (read : Node → Option α) (entry : Property) (s : Sink) :
    logged (readEntry expected read entry next) s =
      (returned (readTranslations expected read entry) s).elim [] fun translations =>
        (returned (entryKey entry) s).elim [] fun key => logged (next translations key) s := by
  have hread (translations : List (Translation α)) : Additive (withKey entry (next translations)) :=
    additive_withKey (hnext translations)
  have hentry : logged (readEntry expected read entry next) s =
      logged (readTranslations expected read entry) s ++
        (returned (readTranslations expected read entry) s).elim [] fun translations =>
          logged (withKey entry (next translations)) s :=
    logged_bind_option (additive_readTranslations expected read entry) (by rfl) hread s
  have hkey (translations : List (Translation α)) : logged (withKey entry (next translations)) s =
      logged (entryKey entry) s ++
        (returned (entryKey entry) s).elim [] fun key => logged (next translations key) s :=
    logged_bind_option (additive_entryKey entry) (by rfl) (hnext translations) s
  simp only [hentry, hkey, logged_readTranslations, logged_entryKey, List.nil_append]

/-- An entry that is given up is given up in silence. -/
theorem logged_readEntry_of_givenUp {next : List (Translation α) → String → Check (Option β)}
    (hnext : ∀ translations key, Additive (next translations key)) {expected : String}
    {read : Node → Option α} (h : GivenUp read entry (readEntry expected read entry next) s) :
    logged (readEntry expected read entry next) s = [] := by
  rw [logged_readEntry hnext]
  obtain ⟨-, -, -, -, ⟨-, hnot⟩ | ⟨-, error, herror⟩⟩ := h.reported
  · obtain ⟨-, -, -, -, hnone, -⟩ | ⟨hreadable, -, -⟩ :=
      readTranslations_cases expected read entry s
    · rw [hnone, Option.elim_none]
    · exact absurd hreadable hnot
  · obtain ⟨-, -, hnone, -⟩ | ⟨identifier, hid, -, -⟩ := entryKey_cases entry s
    · cases returned (readTranslations expected read entry) s with
      | none => rfl
      | some translations => rw [Option.elim_some, hnone, Option.elim_none]
    · cases herror.symm.trans hid

theorem logged_readEntry_of_readable {next : List (Translation α) → String → Check (Option β)}
    (hnext : ∀ translations key, Additive (next translations key)) {expected : String}
    {read : Node → Option α} {identifier : Identifier} (h : entry.Readable read)
    (hid : Identifier.ofSentence entry.name = .ok identifier) :
    logged (readEntry expected read entry next) s =
      logged (next (translationsOf read entry) identifier.text) s := by
  rw [logged_readEntry hnext]
  obtain ⟨-, -, -, hnot, -, -⟩ | ⟨-, hsome, -⟩ := readTranslations_cases expected read entry s
  · exact absurd h hnot
  · obtain ⟨error, herror, -, -⟩ | ⟨identifier', hid', hkey, -⟩ := entryKey_cases entry s
    · cases hid.symm.trans herror
    · cases hid.symm.trans hid'
      rw [hsome, Option.elim_some, hkey, Option.elim_some]

theorem logged_reportMissing (entry : Property) (key : String)
    (required present : List String) (s : Sink) :
    logged (reportMissing entry key required present) s = [] :=
  logged_forEach_eq_nil (fun _ => additive_reportNode _ _) (fun _ => logged_reportNode _ _ s) _

theorem logged_reportExtra (key : String) (known : List String)
    (translations : List (Translation α)) (s : Sink) :
    logged (reportExtra key known translations) s = [] :=
  logged_forEach_eq_nil (fun _ => additive_reportNode _ _) (fun _ => logged_reportNode _ _ s) _

theorem logged_reportArguments (key : String) (arguments : List String)
    (t : Translation String) (s : Sink) : logged (reportArguments key arguments t) s = [] := by
  have hreport (problem : String → Problem) (items : List String) :
      Additive (forEach (fun argument => reportNode t.node (problem argument)) items) :=
    additive_forEach (fun _ => additive_reportNode _ _) items
  rw [reportArguments, logged_bind (hreport _ _) fun _ => hreport _ _,
    logged_forEach_eq_nil (fun _ => additive_reportNode _ _) fun _ => logged_reportNode _ _ s,
    logged_forEach_eq_nil (fun _ => additive_reportNode _ _) fun _ => logged_reportNode _ _ s,
    List.append_nil]

/-- The check of a phrase logs that it gives the phrase up for an argument. -/
theorem logged_phraseOf (entry : Property) (metadata : Metadata)
    (translations : List (Translation String)) (key : String) (s : Sink) :
    logged (phraseOf entry metadata translations key) s =
      if (foreignTranslations translations).all
          fun t => (unknownArguments (placeholders entry.name) t).isEmpty then []
      else [.unknownArgument key] := by
  have hmissing := additive_reportMissing entry key
    (metadata.languages.filter (· != Language.english)) (translations.map (·.language))
  have hextra := additive_reportExtra key metadata.languages (foreignTranslations translations)
  have harguments := additive_forEach (additive_reportArguments key (placeholders entry.name))
    (foreignTranslations translations)
  have hend := fun _ : Unit => additive_phraseUnless ((foreignTranslations translations).all
    fun t => (unknownArguments (placeholders entry.name) t).isEmpty) key
      ⟨key, phraseTexts entry.name translations, placeholders entry.name⟩
  unfold phraseOf
  refine (logged_bind hmissing (fun _ => hextra.bind fun _ => harguments.bind hend) s).trans ?_
  rw [logged_reportMissing, logged_bind hextra fun _ => harguments.bind hend, logged_reportExtra,
    logged_bind harguments hend, logged_forEach_eq_nil (additive_reportArguments _ _)
      fun t => logged_reportArguments _ _ t s]
  split <;> rfl

theorem logged_someNounOf (entry : Property) (metadata : Metadata)
    (translations : List (Translation (List String))) (key : String) (s : Sink) :
    logged (someNounOf entry metadata translations key) s = [] := by
  have hmissing := additive_reportMissing entry key (nounLanguages metadata)
    (translations.map (·.language))
  have hextra := additive_reportExtra key (nounLanguages metadata) translations
  have hincomplete := additive_forEach (fun t : Translation (List String) =>
    additive_reportNode t.node (.nounIsIncomplete key t.language))
    (incompleteTranslations translations)
  rw [someNounOf,
    logged_bind (additive_nounOf entry metadata translations key) fun _ => additive_pure _,
    logged_pure, List.append_nil]
  unfold nounOf
  refine (logged_bind hmissing (fun _ => hextra.bind fun _ =>
    hincomplete.bind fun _ => additive_pure _) s).trans ?_
  rw [logged_reportMissing, logged_bind hextra fun _ => hincomplete.bind fun _ => additive_pure _,
    logged_reportExtra, logged_bind hincomplete fun _ => additive_pure _,
    logged_forEach_eq_nil (fun _ => additive_reportNode _ _) fun _ => logged_reportNode _ _ s]
  rfl

/-- The check of a noun logs nothing. -/
theorem logged_validateNoun (entry : Property) (metadata : Metadata) (s : Sink) :
    logged (validateNoun entry metadata) s = [] := by
  rw [validateNoun_eq_readEntry, logged_readEntry (additive_someNounOf entry metadata)]
  cases returned (readTranslations "an array of strings" texts? entry) s with
  | none => rfl
  | some translations =>
      cases returned (entryKey entry) s with
      | none => rfl
      | some key => exact logged_someNounOf entry metadata translations key s

/-- What the check of a phrase comes to, by what it logs: it gives a phrase, or gives it up for an
argument that the sentence does not have, or gives the entry up for something else. -/
theorem logged_validatePhrase_cases (entry : Property) (metadata : Metadata) (s : Sink) :
    (∃ phrase, returned (validatePhrase entry metadata) s = some phrase ∧
      logged (validatePhrase entry metadata) s = []) ∨
    (∃ identifier, Identifier.ofSentence entry.name = .ok identifier ∧
      returned (validatePhrase entry metadata) s = none ∧
      logged (validatePhrase entry metadata) s = [.unknownArgument identifier.text] ∧
      ∃ d ∈ reported (validatePhrase entry metadata) s, d.code = .extraPhraseArgument) ∨
    (returned (validatePhrase entry metadata) s = none ∧
      logged (validatePhrase entry metadata) s = [] ∧
      ¬ ∃ d ∈ reported (validatePhrase entry metadata) s, d.code = .extraPhraseArgument) := by
  obtain hgiven | ⟨identifier, hreadable, hid, hret, hrep⟩ := validatePhrase_cases entry metadata s
  · refine .inr (.inr ⟨hgiven.returned, ?_, ?_⟩)
    · rw [validatePhrase_eq_readEntry] at hgiven ⊢
      exact logged_readEntry_of_givenUp (additive_phraseOf entry metadata) hgiven
    · obtain ⟨place, -, problem, hone, hcode⟩ := hgiven.reported
      rintro ⟨d, hd, hextra⟩
      rw [hone, List.mem_singleton] at hd
      rw [hd, Sink.code_locate] at hextra
      obtain ⟨hjson, -⟩ | ⟨hformat, -⟩ := hcode
      · cases hjson.symm.trans hextra
      · cases hformat.symm.trans hextra
  · have hlog : logged (validatePhrase entry metadata) s =
        logged (phraseOf entry metadata (translationsOf Node.text? entry) identifier.text) s := by
      rw [validatePhrase_eq_readEntry]
      exact logged_readEntry_of_readable (additive_phraseOf entry metadata) hreadable hid
    rw [hlog, logged_phraseOf, hret, (phraseOf_parts ..).1]
    split
    next => exact .inl ⟨_, rfl, rfl⟩
    next hnot =>
      obtain ⟨d, hd, hcode⟩ := exists_reported_extraPhraseArgument hnot
      exact .inr (.inl ⟨identifier, hid, rfl, rfl, d, hrep ▸ List.mem_append_right _ hd, hcode⟩)

end entries

/-! ## the refusals of a log -/

section refusals

variable {text : String} {root : Node} {elements : List Node} {element : Node} {s : Sink}

/-- The check of an element logs just that a text is refused. -/
theorem logged_languageOf (element : Node) (s : Sink) :
    logged (languageOf element) s =
      element.text?.elim [] fun code =>
        if element.code?.isNone then [.languageRejected code (Language.refusal code)] else [] := by
  unfold languageOf Node.code?
  cases element.text? with
  | none => rfl
  | some code =>
      rw [Option.map_some, Option.elim_some]
      by_cases hmem : Language.normalize code ∈ Language.codes
      · simp only [Language.validate_eq, if_pos hmem, Option.filter_some, decide_eq_true hmem]
        rfl
      · simp only [Language.validate_eq, if_neg hmem, Option.filter_some, decide_eq_false hmem]
        rfl

theorem logged_versionOf (metadata : Node) (s : Sink) : logged (versionOf metadata) s = [] := by
  unfold versionOf
  split
  · rfl
  · split
    · split <;> rfl
    · rfl

/-- The check of the metadata logs what the checks of the declared languages log. -/
theorem logged_validateMetadata (root : Node) (s : Sink) :
    logged (validateMetadata root) s =
      (root.declarations?.getD []).flatMap fun element => logged (languageOf element) s := by
  rw [validateMetadata_eq, Node.declarations?, Node.metadata?]
  cases (root.get? "metadata").filter Node.isObject with
  | none => rfl
  | some metadata =>
      show logged (metadataOf metadata) s = _
      rw [Option.bind_some, Node.languages?]
      unfold metadataOf
      cases (metadata.get? "languages").bind Node.elements? with
      | none =>
          rw [logged_bind (additive_versionOf metadata) fun _ =>
            (additive_reportNode _ _).bind fun _ => additive_pure _, logged_versionOf]
          rfl
      | some elements =>
          have hcollect := additive_collect additive_languageOf elements
          rw [logged_bind (additive_versionOf metadata) fun _ =>
              hcollect.bind fun _ => additive_pure _,
            logged_versionOf, logged_bind hcollect fun _ => additive_pure _,
            logged_collect additive_languageOf, logged_pure, List.append_nil]
          rfl

/-- Metadata are usable just if they declare languages. -/
theorem returned_validateMetadata_isSome (root : Node) (s : Sink) :
    (returned (validateMetadata root) s).isSome = root.declarations?.isSome := by
  rw [validateMetadata_eq, Node.declarations?, ← Node.metadata?]
  cases root.metadata? with
  | none => rfl
  | some metadata =>
      show (returned (metadataOf metadata) s).isSome = _
      rw [(metadataOf_parts s metadata).1, Option.isSome_map, Option.bind_some]

/-- The check of the metadata reports languages just where they are declared. -/
theorem ofKind_validateMetadata (root : Node) (s : Sink) :
    ofKind .invalidLanguage (reported (validateMetadata root) s) =
      languageReports (root.declarations?.getD []) s := by
  have hversion (metadata : Node) : ofKind .invalidLanguage (versionReports metadata s) = [] := by
    unfold versionReports
    split <;> rfl
  rw [validateMetadata_eq, Node.declarations?, ← Node.metadata?]
  cases root.metadata? with
  | none => rfl
  | some metadata =>
      show ofKind _ (reported (metadataOf metadata) s) = _
      rw [(metadataOf_parts s metadata).2, ofKind_append, hversion,
        List.nil_append, Option.bind_some]
      cases metadata.languages? with
      | none => rfl
      | some elements => exact ofKind_map fun _ => rfl

/-- Neither repeated names nor nouns are reported as languages. -/
theorem invalidLanguage_notMem_letters (options : Options) :
    .invalidLanguage ∉ (Pattern.repetitions options).letters ∧
      .invalidLanguage ∉ (Pattern.nouns options).letters := by
  obtain ⟨missingNouns, duplicateKeys, collisions⟩ := options
  cases missingNouns <;> cases duplicateKeys <;> cases collisions <;> decide

theorem ofKind_headReports_invalidLanguage (options : Options) (root : Node) (s : Sink) :
    ofKind .invalidLanguage (headReports options root s) =
      languageReports (root.declarations?.getD []) s := by
  rw [headReports, ofKind_append,
    ofKind_eq_nil (codes_repetitionReports options root s)
      (invalidLanguage_notMem_letters options).1,
    List.nil_append, ofKind_validateMetadata]

theorem ofKind_sectionReports_invalidLanguage (options : Options) (root : Node)
    (metadata : Metadata) (s : Sink) :
    ofKind .invalidLanguage (sectionReports options root metadata s) = [] := by
  rw [sectionReports, ofKind_append,
    ofKind_eq_nil (codes_phraseReports root metadata s) (by decide),
    ofKind_eq_nil (codes_nounReports options root metadata _ s)
      (invalidLanguage_notMem_letters options).2,
    List.append_nil]

/-- What is reported of the declared languages is all that is reported of languages. -/
theorem ofKind_invalidLanguage (fileId : String) (options : Options)
    (h : readDocument text = .ok root) :
    ofKind .invalidLanguage (validate text fileId options).diagnostics =
      languageReports (root.declarations?.getD []) (.ofString text fileId) := by
  cases hm : returned (validateMetadata root) (.ofString text fileId) with
  | none => rw [validate_of_unusable h hm, ofKind_headReports_invalidLanguage]
  | some metadata =>
      rw [validate_of_usable h hm, ofKind_append, ofKind_headReports_invalidLanguage,
        ofKind_sectionReports_invalidLanguage, List.append_nil]

variable (h : readDocument text = .ok root)

include h

/-- The elements of an array stand at places of their own. -/
theorem nodup_spans {n : Node} (hn : root.Contains n) (helements : n.elements? = some elements) :
    (elements.map (·.span)).Nodup := by
  obtain ⟨-, hordered⟩ := (laidOut_of_contains h hn).elements elements helements
  refine List.pairwise_map.2 (hordered.imp_of_mem fun {a b} ha _ hle heq => ?_)
  have hpos := (laidOut_of_contains h (hn.trans (contains_of_mem_elements helements ha))).length_pos
  have hstop : a.span.stop = a.span.offset + a.span.length := rfl
  rw [← heq] at hle
  omega

/-- The text of a declared language is found at its place. -/
theorem declaredText?_span (helements : root.declarations? = some elements)
    (helement : element ∈ elements) : root.declaredText? element.span = element.text? := by
  obtain ⟨metadata, hmetadata, hlanguages⟩ := Option.bind_eq_some_iff.1 helements
  obtain ⟨list, hlist, hlist'⟩ := Option.bind_eq_some_iff.1 hlanguages
  have hcontains := (contains_of_get? (Option.filter_eq_some_iff.1 hmetadata).1).trans
    (contains_of_get? hlist)
  have hnodup := nodup_spans h hcontains hlist'
  rw [Node.declaredText?, helements, Option.getD_some,
    (find?_key_eq_some_iff hnodup).2 ⟨helement, rfl⟩, Option.bind_some]

/-- Each diagnostic that refuses a text has its event, in the same order. -/
theorem forall₂_refusals (s : Sink) :
    List.Forall₂ (TellsRefusal root)
      ((languageReports (root.declarations?.getD []) s).filter fun d =>
        (root.declaredText? d.span).isSome)
      (logged (validateMetadata root) s) := by
  rw [logged_validateMetadata]
  cases helements : root.declarations? with
  | none => exact .nil
  | some elements =>
      rw [Option.getD_some, languageReports, refused, List.filter_map, List.filter_filter,
        List.forall₂_map_left_iff]
      have hfilter : (elements.filter fun element =>
          ((fun d : Diagnostic => (root.declaredText? d.span).isSome) ∘ fun element =>
            s.locate element.span (.invalidLanguage (refusalOf element s))) element &&
              element.code?.isNone) =
          elements.filter fun element => element.text?.isSome && element.code?.isNone := by
        refine List.filter_congr fun element helement => ?_
        simp only [Function.comp_apply, Sink.span_locate, declaredText?_span h helements helement]
      rw [hfilter]
      refine forall₂_filter_flatMap (fun element helement hrefused => ?_) fun element _ hnot => ?_
      · obtain ⟨htext, hcode⟩ := Bool.and_eq_true_iff.1 hrefused
        obtain ⟨code, htext⟩ := Option.isSome_iff_exists.1 htext
        have hmem : Language.normalize code ∉ Language.codes := by
          simpa [Node.code?, htext] using hcode
        refine ⟨.languageRejected code (Language.refusal code), ?_,
          code, Language.refusal code, ?_, ?_, ?_, rfl⟩
        · rw [logged_languageOf, htext, Option.elim_some, if_pos hcode]
        · rw [Sink.span_locate, declaredText?_span h helements helement, htext]
        · rw [Language.validate_eq, if_neg hmem]
        · show (Problem.invalidLanguage (refusalOf element s)).message = _
          rw [refusalOf, htext]
      · rw [logged_languageOf]
        cases htext : element.text? with
        | none => rfl
        | some code =>
            rw [htext, Option.isSome_some, Bool.true_and] at hnot
            rw [Option.elim_some, hnot, if_neg Bool.false_ne_true]

end refusals

/-! ## the entries of a log -/

/-- Where each entry has a record, the records of a section stand one behind the other. -/
theorem recorded_of_forall {α : Type} {record : Property → Option α → List LogEvent → Prop}
    {entries : List Property} {item? : Property → Option α} {events : Property → List LogEvent}
    (h : ∀ entry ∈ entries, record entry (item? entry) (events entry)) :
    Recorded record entries (entries.filterMap item?) (entries.flatMap events) := by
  induction entries with
  | nil => exact .nil
  | cons entry rest ih =>
      obtain ⟨hentry, hrest⟩ := List.forall_mem_cons.1 h
      have hitems :
          (entry :: rest).filterMap item? = (item? entry).toList ++ rest.filterMap item? := by
        cases hitem : item? entry <;> simp [hitem]
      rw [hitems, List.flatMap_cons]
      exact .cons hentry (ih hrest)

theorem phraseEvents_eq (root : Node) (metadata : Metadata) (s : Sink) :
    phraseEvents root metadata s = (sectionEntries root .phrases).flatMap fun entry =>
      logged (validatePhrase entry metadata) s ++
        dropEvents .phrases entry (returned (validatePhrase entry metadata) s) := by
  unfold phraseEvents sectionEntries
  cases sectionOf? root .phrases <;> rfl

theorem nounEvents_eq (root : Node) (metadata : Metadata) (s : Sink) :
    nounEvents root metadata s = (sectionEntries root .nouns).flatMap fun entry =>
      logged (validateNoun entry metadata) s ++
        dropEvents .nouns entry (returned (validateNoun entry metadata) s) := by
  unfold nounEvents sectionEntries
  cases sectionOf? root .nouns <;> rfl

section records

variable {text fileId : String} {options : Options} {root : Node} {metadata : Metadata}
  {entry : Property} (h : readDocument text = .ok root)

include h

/-- The entries of a section have different names. -/
theorem eq_of_name_eq {entries : Section} {a b : Property} (ha : a ∈ sectionEntries root entries)
    (hb : b ∈ sectionEntries root entries) (hname : a.name = b.name) : a = b := by
  rw [sectionEntries_eq h] at ha hb
  have hnodup : ((firstMembers root entries).map (·.name)).Nodup := by
    rw [map_name_firstMembers]
    exact nodup_distinct _
  exact List.inj_on_of_nodup_map hnodup ha hb hname

variable (hm : returned (validateMetadata root) (.ofString text fileId) = some metadata)

include hm

/-- The book lacks the phrase of an entry whose check gives none. -/
theorem lacksPhrase_of_returned (hentry : entry ∈ sectionEntries root .phrases)
    (hnone : returned (validatePhrase entry metadata) (.ofString text fileId) = none) :
    LacksPhrase (validate text fileId options) entry where
  absent phrase hphrase henglish := by
    rw [validate_of_usable h hm, phrasesOf_eq] at hphrase
    obtain ⟨other, hother, hreturned⟩ := List.mem_filterMap.1 hphrase
    obtain ⟨translations, identifier, -, -, rfl⟩ := of_returned_validatePhrase hreturned
    have hname : other.name = entry.name :=
      Option.some.inj ((Translations.get?_insert_self _ _ _).symm.trans henglish)
    rw [eq_of_name_eq h hother hentry hname] at hreturned
    cases hnone.symm.trans hreturned
  explained hkept := by
    have hsome := (kept_iff_isSome h hm hentry returned_validatePhrase_eq_none_iff).1 hkept
    rw [hnone] at hsome
    cases hsome

theorem strayReported_iff (hentry : entry ∈ sectionEntries root .phrases) :
    StrayReported (validate text fileId options).diagnostics entry ↔
      ∃ d ∈ reported (validatePhrase entry metadata) (.ofString text fileId),
        d.code = .extraPhraseArgument := by
  constructor
  · rintro ⟨d, hd, hcode, hholds⟩
    have hdrop : d.code ∈ Section.phrases.dropCodes := by simp [Section.dropCodes, hcode]
    exact ⟨d, mem_entryReports_of_holds h hm hentry hd hdrop hholds, hcode⟩
  · rintro ⟨d, hd, hcode⟩
    exact ⟨d, mem_diagnostics_of_mem_entryReports h hm hentry hd, hcode,
      (holds_of_mem_entryReports h hentry hd).1⟩

/-- The book and the log agree about an entry of the phrases. -/
theorem phraseRecord_validatePhrase (hentry : entry ∈ sectionEntries root .phrases) :
    PhraseRecord (validate text fileId options) entry
      (returned (validatePhrase entry metadata) (.ofString text fileId))
      (logged (validatePhrase entry metadata) (.ofString text fileId) ++
        dropEvents .phrases entry
          (returned (validatePhrase entry metadata) (.ofString text fileId))) := by
  have hstray := @strayReported_iff text fileId options root metadata entry h hm hentry
  obtain ⟨phrase, hret, hlog⟩ | ⟨identifier, hid, hret, hlog, hreported⟩ | ⟨hret, hlog, hnone⟩ :=
    logged_validatePhrase_cases entry metadata (.ofString text fileId)
  · have hsome :
        (returned (validatePhrase entry metadata) (.ofString text fileId)).isSome = true := by
      rw [hret, Option.isSome_some]
    rw [hret, hlog]
    refine .kept ?_ ?_ ((kept_iff_isSome h hm hentry returned_validatePhrase_eq_none_iff).2 hsome)
    · rw [validate_of_usable h hm, phrasesOf_eq]
      exact List.mem_filterMap.2 ⟨entry, hentry, hret⟩
    · obtain ⟨translations, identifier, -, -, rfl⟩ := of_returned_validatePhrase hret
      exact Translations.get?_insert_self _ _ _
  · rw [hret, hlog]
    exact .strayed (lacksPhrase_of_returned h hm hentry hret) (hstray.2 hreported) hid
  · rw [hret, hlog]
    exact .dropped (lacksPhrase_of_returned h hm hentry hret) (mt hstray.1 hnone)

/-- The book and the log agree about an entry of the nouns. -/
theorem nounRecord_validateNoun (hentry : entry ∈ sectionEntries root .nouns) :
    NounRecord (validate text fileId options) entry
      (returned (validateNoun entry metadata) (.ofString text fileId))
      (logged (validateNoun entry metadata) (.ofString text fileId) ++
        dropEvents .nouns entry
          (returned (validateNoun entry metadata) (.ofString text fileId))) := by
  have hkept := @kept_iff_isSome text fileId options root metadata entry h hm Noun .nouns _ hentry
    returned_validateNoun_eq_none_iff
  rw [logged_validateNoun, List.nil_append]
  cases hret : returned (validateNoun entry metadata) (.ofString text fileId) with
  | none =>
      rw [hret] at hkept
      exact .dropped (mt hkept.1 Bool.false_ne_true)
  | some noun =>
      rw [hret] at hkept
      obtain ⟨translations, identifier, hid, rfl⟩ := of_returned_validateNoun hret
      exact .kept hid rfl (hkept.2 rfl)

/-- The book and the log agree about the phrases. -/
theorem recorded_phrases (options : Options) :
    Recorded (PhraseRecord (validate text fileId options)) (firstMembers root .phrases)
      (validate text fileId options).data.phrases
        (phraseEvents root metadata (.ofString text fileId)) := by
  have hphrases : (validate text fileId options).data.phrases =
      phrasesOf root metadata (.ofString text fileId) := by rw [validate_of_usable h hm]
  rw [hphrases, phrasesOf_eq, phraseEvents_eq, ← sectionEntries_eq h]
  exact recorded_of_forall fun entry => phraseRecord_validatePhrase h hm

/-- The book and the log agree about the nouns. -/
theorem recorded_nouns (options : Options) :
    Recorded (NounRecord (validate text fileId options)) (firstMembers root .nouns)
      (validate text fileId options).data.nouns
        (nounEvents root metadata (.ofString text fileId)) := by
  have hnouns : (validate text fileId options).data.nouns =
      nounsOf root metadata (.ofString text fileId) := by
    rw [validate_of_usable h hm]
  rw [hnouns, nounsOf_eq, nounEvents_eq, ← sectionEntries_eq h]
  exact recorded_of_forall fun entry => nounRecord_validateNoun h hm

end records

/-! ## the whole log -/

section run

variable {text fileId : String} {options : Options} {cancel : Bool} {outcome : Outcome}

/-- The log of a check that is not cancelled tells what it has to tell. -/
theorem chronicle_validate (text fileId : String) (options : Options) :
    Chronicle text (validate text fileId options) (run text fileId options false).log := by
  cases hread : readDocument text with
  | error fault =>
      rw [run_of_fault hread]
      exact .unreadable hread
  | ok root =>
      have hrefusals : List.Forall₂ (TellsRefusal root)
          (textRefusals root (validate text fileId options).diagnostics)
          (logged (validateMetadata root) (.ofString text fileId)) := by
        rw [textRefusals, ofKind_invalidLanguage fileId options hread]
        exact forall₂_refusals hread _
      have hsome := returned_validateMetadata_isSome root (.ofString text fileId)
      cases hm : returned (validateMetadata root) (.ofString text fileId) with
      | none =>
          rw [hm] at hsome
          rw [run_of_unusable hread hm]
          exact .unusable hread (by simpa using hsome.symm) hrefusals
      | some metadata =>
          rw [hm, Option.isSome_some] at hsome
          obtain ⟨elements, helements⟩ := Option.isSome_iff_exists.1 hsome.symm
          have hchronicle := Chronicle.finished hread helements hrefusals
            (recorded_phrases hread hm options) (recorded_nouns hread hm options)
          rw [run_of_usable hread hm]
          rw [validate_of_usable hread hm] at hchronicle ⊢
          exact hchronicle

/-- A check that has an outcome takes the course of one that is not cancelled. -/
theorem run_of_outcome (h : (run text fileId options cancel).outcome = .ok outcome) :
    run text fileId options cancel = run text fileId options false ∧
    outcome = validate text fileId options := by
  have hrun : run text fileId options cancel = run text fileId options false := by
    cases cancel with
    | false => rfl
    | true =>
        refine run_of_not_reachesEntry fun hreaches => ?_
        cases h.symm.trans (outcome_run_cancelled hreaches)
  rw [hrun, outcome_run] at h
  exact ⟨hrun, (Except.ok.inj h).symm⟩

/-- Where a check has an outcome, its log is what `Chronicle` says, and nothing else; a check whose
cancellation is never looked at is one of these. -/
theorem chronicle_of_outcome (h : (run text fileId options cancel).outcome = .ok outcome) :
    Chronicle text outcome (run text fileId options cancel).log ∧
      ∀ log, Chronicle text outcome log → log = (run text fileId options cancel).log := by
  obtain ⟨hrun, rfl⟩ := run_of_outcome h
  rw [hrun]
  have hchronicle := chronicle_validate text fileId options
  exact ⟨hchronicle, fun log hlog => hlog.unique hchronicle⟩

end run

/-- **The log of a check agrees with its outcome**: a check that is not cancelled has an outcome,
and its log is what `Chronicle` says by the document and the outcome, and nothing else. -/
theorem log_agrees_with_outcome (text fileId : String) (options : Options) :
    ∃ outcome, (run text fileId options false).outcome = .ok outcome ∧
      Chronicle text outcome (run text fileId options false).log ∧
      ∀ log, Chronicle text outcome log → log = (run text fileId options false).log :=
  have houtcome := outcome_run text fileId options
  ⟨validate text fileId options, houtcome, chronicle_of_outcome houtcome⟩

example :
    let text :=
      "\x7bmetadata:\x7blanguages:['de','xx',7]\x7d" ++
      ",phrases:\x7b'Hi \x7ba\x7d':\x7bde:'\x7bb\x7d'\x7d,Yes:\x7bde:'Ja'\x7d,No:0\x7d" ++
      ",nouns:\x7bcat:\x7bde:0\x7d,dog:\x7b\x7d\x7d\x7d"
    (run text "book" {} false).log =
      [.readingSucceeded, .languageRejected "xx" (.unknown "xx"), .metadataUsable ["de"],
        .unknownArgument "Hi_", .dropped .phrases "Hi \x7ba\x7d", .dropped .phrases "No",
        .dropped .nouns "cat", .finished 1 1 9] := by decide +kernel

end Phrasebook
