import Phrasebook.Proofs.Drops

/-!
# Phrasebook.Proofs.Completeness

A check that finds no error returns a complete book.

Every way in which something of a document can be missing from its book comes with an error: the
languages that are left out (`languageOf_cases`), the entries that are given up
(`Section.dropCodes`), the languages that an entry lacks, and the forms that a noun lacks.  So a
book without errors lacks nothing.
-/

namespace Phrasebook

/-- None of some diagnostics is an error. -/
def Faultless (ds : List Diagnostic) : Prop := ∀ d ∈ ds, d.severity ≠ .error

instance (ds : List Diagnostic) : Decidable (Faultless ds) :=
  inferInstanceAs (Decidable (∀ d ∈ ds, _))

theorem Faultless.mono {ds es : List Diagnostic} (h : Faultless ds) (hsub : es ⊆ ds) :
    Faultless es :=
  fun d hd => h d (hsub hd)

section entries

variable {s : Sink} {entry : Property} {metadata : Metadata}

theorem severity_of_mem_dropCodes {entries : Section} {c : Code} (h : c ∈ entries.dropCodes) :
    c.severity = .error := by
  revert c
  cases entries <;> decide

/-- Entries without errors are not given up. -/
theorem ne_none_of_faultless {α : Type} (entries : Section) {result : Option α}
    (hresult : result = none ↔
      ∃ d ∈ entryReports metadata s entries entry, d.code ∈ entries.dropCodes)
    (h : Faultless (entryReports metadata s entries entry)) : result ≠ none := by
  intro hnone
  obtain ⟨d, hd, hcode⟩ := hresult.1 hnone
  obtain ⟨place, -, problem, rfl⟩ := exists_place_of_mem_entryReports hd
  exact h _ hd (severity_of_mem_dropCodes hcode)

/-! ## phrases and nouns -/

/-- A phrase without errors has its sentence, and a text in every declared language. -/
theorem exists_phrase_of_faultless (h : Faultless (reported (validatePhrase entry metadata) s)) :
    ∃ phrase, returned (validatePhrase entry metadata) s = some phrase ∧
      phrase.translations.get? Language.english = some entry.name ∧
      ∀ language ∈ metadata.languages, (phrase.translations.get? language).isSome = true := by
  have hsome : returned (validatePhrase entry metadata) s ≠ none :=
    ne_none_of_faultless .phrases returned_validatePhrase_eq_none_iff h
  obtain hgiven | ⟨identifier, -, -, hret, hrep⟩ := validatePhrase_cases entry metadata s
  · exact absurd hgiven.returned hsome
  · rw [hret, (phraseOf_parts ..).1] at hsome ⊢
    rw [hrep] at h
    split at hsome
    next hall =>
      rw [if_pos hall]
      refine ⟨_, rfl, Translations.get?_insert_self _ _ _, fun language hlanguage => ?_⟩
      rw [phraseTexts, Translations.get?_insert]
      split
      · rfl
      next hforeign =>
        rw [Translations.isSome_get?_ofList, List.map_map]
        refine Decidable.byContradiction fun hmissing => ?_
        exact h _ (List.mem_append_right _
          (mem_reported_phraseOf.2 (.inl ⟨language, hlanguage, hforeign, hmissing, rfl⟩))) rfl
    next => exact absurd rfl hsome

theorem mem_nounLanguages {language : String} :
    language ∈ nounLanguages metadata ↔
      language = Language.english ∨ language ∈ metadata.languages := by
  unfold nounLanguages Metadata.supports
  split
  next henglish =>
    rw [List.contains_iff_mem] at henglish
    exact ⟨.inr, fun h => h.elim (fun heq => heq ▸ henglish) id⟩
  next => rw [List.mem_append, List.mem_singleton, or_comm]

/-- A noun without errors has both forms in English and in every declared language. -/
theorem exists_noun_of_faultless (h : Faultless (reported (validateNoun entry metadata) s)) :
    ∃ noun, returned (validateNoun entry metadata) s = some noun ∧
      some noun.key = (Identifier.ofSentence entry.name).toOption.map (·.text) ∧
      ∀ language, language = Language.english ∨ language ∈ metadata.languages →
        (noun.singular.get? language).isSome = true ∧
        (noun.plural.get? language).isSome = true := by
  have hsome : returned (validateNoun entry metadata) s ≠ none :=
    ne_none_of_faultless .nouns returned_validateNoun_eq_none_iff h
  obtain hgiven | ⟨identifier, -, hid, hret, hrep⟩ := validateNoun_cases entry metadata s
  · exact absurd hgiven.returned hsome
  · rw [hret, (nounOf_parts ..).1]
    rw [hrep] at h
    refine ⟨_, rfl, by rw [hid]; rfl, fun language hlanguage => ?_⟩
    have hpresent : language ∈ (translationsOf texts? entry).map (·.language) := by
      refine Decidable.byContradiction fun hmissing => ?_
      exact h _ (List.mem_append_right _ (mem_reported_nounOf.2
        (.inl ⟨language, mem_nounLanguages.2 hlanguage, hmissing, rfl⟩))) rfl
    obtain ⟨t, ht, rfl⟩ := List.mem_map.1 hpresent
    have hforms : ∃ f ∈ formsOf (translationsOf texts? entry), f.1 = t.language := by
      cases hf : forms? t with
      | none =>
          exact absurd rfl (h _ (List.mem_append_right _
            (mem_reported_nounOf.2 (.inr (.inr ⟨t, ht, hf, rfl⟩)))))
      | some f => exact ⟨(t.language, f), List.mem_filterMap.2 ⟨t, ht, by rw [hf]; rfl⟩, rfl⟩
    rw [Translations.isSome_get?_ofList, Translations.isSome_get?_ofList,
      List.map_map, List.map_map]
    exact ⟨List.mem_map.2 hforms, List.mem_map.2 hforms⟩

end entries

/-! ## metadata -/

/-- The language that an element of the array of languages stands for. -/
def declared? (element : Node) : Option String :=
  element.text?.bind fun code => (Language.validate code).toOption

/-- Metadata without errors declare one language with each element. -/
theorem exists_metadata_of_faultless {root : Node} {s : Sink}
    (h : Faultless (reported (validateMetadata root) s)) :
    ∃ node elements metadata, root.Declares node elements ∧
      returned (validateMetadata root) s = some metadata ∧
      metadata.languages.map some = elements.map declared? := by
  obtain ⟨-, hrep⟩ | ⟨node, -, -, hrep⟩ | ⟨node, elements, hdeclares, hret, hrep⟩ :=
    validateMetadata_cases root s
  · rw [hrep] at h
    exact absurd rfl (h _ (List.mem_singleton_self _))
  · rw [hrep] at h
    exact absurd rfl (h _ (List.mem_append_right _ (List.mem_singleton_self _)))
  · rw [hrep] at h
    have helement : ∀ element ∈ elements, ∃ language,
        returned (languageOf element) s = some language ∧ declared? element = some language := by
      intro element helement
      obtain ⟨code, language, htext, hvalid, hlanguage, -⟩ | ⟨reason, -, hone⟩ :=
        languageOf_cases element s
      · exact ⟨language, hlanguage, by rw [declared?, htext, Option.bind_some, hvalid]; rfl⟩
      · refine absurd rfl (h (s.locate element.span (.invalidLanguage reason))
          (List.mem_append_right _ (List.mem_flatMap.2 ⟨element, helement, ?_⟩)))
        rw [hone]
        exact List.mem_singleton_self _
    refine ⟨node, elements, _, hdeclares, hret, map_filterMap_eq_map fun element hin => ?_⟩
    obtain ⟨language, hlanguage, hdeclared⟩ := helement element hin
    exact ⟨language, hlanguage, hdeclared.symm⟩

/-! ## collisions and repetitions -/

/-- Without the report of a collision, no phrase has the key of a noun. -/
theorem ne_key_of_faultless {options : Options} {phrases : List Phrase} {entry : Property}
    {s : Sink} {noun : Noun} (hcheck : options.checkPhraseNounCollisions = true)
    (h : Faultless (nounCollisions options phrases entry s (some noun))) :
    ∀ phrase ∈ phrases, phrase.key ≠ noun.key := by
  simp only [nounCollisions, hcheck, if_true, collisionReports] at h
  split at h
  · exact absurd rfl (h _ (List.mem_singleton_self _))
  next hfind =>
    intro phrase hphrase hkey
    exact List.find?_eq_none.1 hfind phrase hphrase (beq_iff_eq.2 hkey)

/-- Without the report of a repetition, the names of an object differ. -/
theorem nodup_of_faultless {text : String} {root : Node} {options : Options} {s : Sink}
    (hread : readDocument text = .ok root) (hreject : options.duplicateKeys = .reject)
    (h : Faultless (repetitionReports options root s)) {span : Span} {ms : List Property}
    (hobject : root.Contains (.object span ms)) : (ms.map (·.name)).Nodup := by
  have hfirst : ∀ m ∈ ms, (!m.repeated) = true := by
    intro m hm
    rw [Bool.not_eq_true', ← Bool.not_eq_true]
    intro hrepeated
    exact h _ (mem_repetitionReports.2
      ⟨hreject, m, mem_repetitions_of_contains hobject hm hrepeated, rfl⟩) rfl
  have hdistinct := (repetitionsMarked_of_contains hread hobject).filter_eq
  rw [List.filter_eq_self.2 hfirst] at hdistinct
  rw [hdistinct, map_distinctOn]
  exact nodup_distinct _

/-! ## complete books -/

/-- The names that stand in the object that a section is. -/
def entryNames (root : Node) (entries : Section) : List String :=
  (((root.get? entries.name).bind Node.members?).getD []).map (·.name)

theorem map_name_firstMembers (root : Node) (entries : Section) :
    (firstMembers root entries).map (·.name) = distinct (entryNames root entries) :=
  map_distinctOn _ _

/-- A book holds all that a document says. -/
structure Book.Complete (b : Book) (root : Node) (options : Options) : Prop where
  languages : ∃ node elements, root.Declares node elements ∧
    b.metadata.languages.map some = elements.map declared?
  phrases : b.phrases.map (·.translations.get? Language.english) =
    (distinct (entryNames root .phrases)).map some
  nouns : b.nouns.map (fun noun => some noun.key) =
    (distinct (entryNames root .nouns)).map fun name =>
      (Identifier.ofSentence name).toOption.map (·.text)
  translated : ∀ phrase ∈ b.phrases, ∀ language ∈ b.metadata.languages,
    (phrase.translations.get? language).isSome = true
  inflected : ∀ noun ∈ b.nouns, ∀ language,
    language = Language.english ∨ language ∈ b.metadata.languages →
    (noun.singular.get? language).isSome = true ∧ (noun.plural.get? language).isSome = true
  apart : options.checkPhraseNounCollisions = true →
    ∀ phrase ∈ b.phrases, ∀ noun ∈ b.nouns, phrase.key ≠ noun.key
  unrepeated : options.duplicateKeys = .reject → ∀ span ms, root.Contains (.object span ms) →
    (ms.map (·.name)).Nodup

section run

variable {text fileId : String} {options : Options} {root : Node} {metadata : Metadata}
  (h : Faultless (validate text fileId options).diagnostics) (hread : readDocument text = .ok root)

include h hread

theorem faultless_headReports : Faultless (headReports options root (.ofString text fileId)) := by
  cases hm : returned (validateMetadata root) (.ofString text fileId) with
  | none =>
      rw [validate_of_unusable hread hm] at h
      exact h
  | some metadata =>
      rw [validate_of_usable hread hm] at h
      exact h.mono (List.subset_append_left _ _)

variable (hm : returned (validateMetadata root) (.ofString text fileId) = some metadata)

include hm

theorem faultless_entryReports {entries : Section} {entry : Property}
    (hentry : entry ∈ sectionEntries root entries) :
    Faultless (entryReports metadata (.ofString text fileId) entries entry) :=
  h.mono fun _ hd => mem_diagnostics_of_mem_entryReports hread hm hentry hd

/-- The phrases of a book without errors have a text in every declared language. -/
theorem translated_of_mem_phrasesOf {phrase : Phrase}
    (hphrase : phrase ∈ phrasesOf root metadata (.ofString text fileId)) :
    ∀ language ∈ metadata.languages, (phrase.translations.get? language).isSome = true := by
  rw [phrasesOf_eq] at hphrase
  obtain ⟨entry, hentry, hreturned⟩ := List.mem_filterMap.1 hphrase
  obtain ⟨phrase', hphrase', -, htranslated⟩ :=
    exists_phrase_of_faultless (faultless_entryReports h hread hm hentry)
  cases hreturned.symm.trans hphrase'
  exact htranslated

/-- The nouns of a book without errors have all forms, and keys of their own. -/
theorem inflected_of_mem_nounsOf {noun : Noun}
    (hnoun : noun ∈ nounsOf root metadata (.ofString text fileId)) :
    (∀ language, language = Language.english ∨ language ∈ metadata.languages →
      (noun.singular.get? language).isSome = true ∧ (noun.plural.get? language).isSome = true) ∧
    (options.checkPhraseNounCollisions = true →
      ∀ phrase ∈ phrasesOf root metadata (.ofString text fileId), phrase.key ≠ noun.key) := by
  rw [nounsOf_eq] at hnoun
  obtain ⟨entry, hentry, hreturned⟩ := List.mem_filterMap.1 hnoun
  obtain ⟨noun', hnoun', -, hinflected⟩ :=
    exists_noun_of_faultless (faultless_entryReports h hread hm hentry)
  cases hreturned.symm.trans hnoun'
  have hapart : Faultless (nounCollisions options
      (phrasesOf root metadata (.ofString text fileId)) entry (.ofString text fileId)
      (some noun)) := by
    refine h.mono fun d hd => ?_
    rw [← hnoun'] at hd
    rw [validate_of_usable hread hm]
    exact List.mem_append_right _ (List.mem_append_right _
      (mem_nounReports.2 (.inr ⟨entry, hentry, .inr hd⟩)))
  exact ⟨hinflected, fun hcheck => ne_key_of_faultless hcheck hapart⟩

end run

/-- **A book without errors is complete**, whatever the text, the name of the file and the
options. -/
theorem complete_of_faultless (text fileId : String) (options : Options)
    (h : Faultless (validate text fileId options).diagnostics) :
    ∃ root, readDocument text = .ok root ∧
      (validate text fileId options).data.Complete root options := by
  cases hread : readDocument text with
  | error fault =>
      rw [validate_of_fault hread] at h
      exact absurd rfl (h _ (List.mem_singleton_self _))
  | ok root =>
      have hhead := faultless_headReports h hread
      obtain ⟨node, elements, metadata, hdeclares, hm, hlanguages⟩ :=
        exists_metadata_of_faultless (hhead.mono (List.subset_append_right _ _))
      have hentries := fun entries entry =>
        @faultless_entryReports text fileId options root metadata h hread hm entries entry
      refine ⟨root, rfl, ?_⟩
      rw [validate_of_usable hread hm]
      constructor
      case languages => exact ⟨node, elements, hdeclares, hlanguages⟩
      case phrases =>
        show (phrasesOf root metadata _).map _ = _
        rw [← map_name_firstMembers, List.map_map, phrasesOf_eq, ← sectionEntries_eq hread]
        refine map_filterMap_eq_map fun entry hentry => ?_
        obtain ⟨phrase, hphrase, henglish, -⟩ :=
          exists_phrase_of_faultless (hentries _ entry hentry)
        exact ⟨phrase, hphrase, henglish⟩
      case nouns =>
        show (nounsOf root metadata _).map _ = _
        rw [← map_name_firstMembers, List.map_map, nounsOf_eq, ← sectionEntries_eq hread]
        refine map_filterMap_eq_map fun entry hentry => ?_
        obtain ⟨noun, hnoun, hkey, -⟩ := exists_noun_of_faultless (hentries _ entry hentry)
        exact ⟨noun, hnoun, hkey⟩
      case translated => exact fun phrase hphrase => translated_of_mem_phrasesOf h hread hm hphrase
      case inflected => exact fun noun hnoun => (inflected_of_mem_nounsOf h hread hm hnoun).1
      case apart =>
        intro hcheck phrase hphrase noun hnoun
        exact (inflected_of_mem_nounsOf h hread hm hnoun).2 hcheck phrase hphrase
      case unrepeated =>
        intro hreject span ms hobject
        exact nodup_of_faultless hread hreject (hhead.mono (List.subset_append_left _ _)) hobject

/-- A document with a phrase and a noun, both in all of its languages. -/
def completeText : String :=
  "\x7bmetadata:\x7bversion:'1',languages:['de',' EN ']\x7d," ++
    "phrases:\x7b'Hi \x7ba\x7d':\x7bde:'Hallo \x7ba\x7d'\x7d\x7d," ++
    "nouns:\x7bdog:\x7bde:['Hund','Hunde'],en:['dog','dogs']\x7d\x7d\x7d"

theorem complete_completeText :
    let outcome := validate completeText "book" { duplicateKeys := .reject }
    Faultless outcome.diagnostics ∧
      ∃ root, readDocument completeText = .ok root ∧
        outcome.data.Complete root { duplicateKeys := .reject } := by
  have hfaultless :
      Faultless (validate completeText "book" { duplicateKeys := .reject }).diagnostics := by
    decide +kernel
  exact ⟨hfaultless, complete_of_faultless completeText "book" _ hfaultless⟩

end Phrasebook
