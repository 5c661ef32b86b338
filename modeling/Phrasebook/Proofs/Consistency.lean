import Phrasebook.Proofs.Isolation
import Phrasebook.Proofs.TranslationMap

/-!
# Phrasebook.Proofs.Consistency

Every book that a check returns is consistent.

1. A phrase gives its own English sentence.  Its key is the identifier of that sentence, its
   arguments are the placeholders of the sentence, and no text of the phrase has another
   placeholder.
2. A noun has its singular and its plural in the same languages.
3. The metadata declare languages of the table only, and a version that is empty or not blank.

Each is read off what the validator of the entry returns.
-/

namespace Phrasebook

/-! ## consistent books -/

/-- The key of a phrase and its arguments are those of its English sentence, and its other texts
have no arguments but these. -/
structure Phrase.Consistent (p : Phrase) : Prop where
  sentence : ∃ sentence, p.translations.get? Language.english = some sentence ∧
    (∃ identifier, Identifier.ofSentence sentence = .ok identifier ∧ identifier.text = p.key) ∧
    p.arguments = placeholders sentence
  arguments : ∀ language text, p.translations.get? language = some text →
    ∀ argument ∈ placeholders text, argument ∈ p.arguments

/-- A noun has both forms in each of its languages. -/
structure Noun.Consistent (n : Noun) : Prop where
  languages : n.singular.languages = n.plural.languages

/-- The declared languages are known, and the version says something if there is one. -/
structure Metadata.Consistent (m : Metadata) : Prop where
  languages : ∀ language ∈ m.languages, language ∈ Language.codes
  version : m.version = "" ∨ ∃ c ∈ m.version.toList, Text.isBlank c = false

/-- All parts of a book are consistent. -/
structure Book.Consistent (b : Book) : Prop where
  metadata : b.metadata.Consistent
  phrases : ∀ p ∈ b.phrases, p.Consistent
  nouns : ∀ n ∈ b.nouns, n.Consistent

theorem consistent_empty : Book.empty.Consistent where
  metadata :=
    { languages := fun _ h => absurd h List.not_mem_nil
      version := .inl rfl }
  phrases _ h := absurd h List.not_mem_nil
  nouns _ h := absurd h List.not_mem_nil

/-! ## what the validators return -/

section value

variable {α β : Type} {s : Sink} {entry : Property} {metadata : Metadata}

/-- A check that gives up where its first part gives nothing returns something only if both parts
do. -/
theorem of_run_bind_eq_some {check : Check (Option α)} {next : Option α → Check (Option β)} {b : β}
    (h : ((check >>= next).run s).1 = some b) (hnone : next none = pure none) :
    ∃ a s', (check.run s).1 = some a ∧ ((next (some a)).run s').1 = some b := by
  rw [run_bind] at h
  cases ha : (check.run s).1 with
  | none =>
      rw [ha, hnone, run_pure] at h
      cases h
  | some a =>
      rw [ha] at h
      exact ⟨a, _, rfl, h⟩

theorem of_run_entryKey {key : String} (h : ((entryKey entry).run s).1 = some key) :
    ∃ identifier, Identifier.ofSentence entry.name = .ok identifier ∧ identifier.text = key := by
  unfold entryKey at h
  cases hid : Identifier.ofSentence entry.name with
  | error error =>
      rw [hid] at h
      cases h
  | ok identifier =>
      rw [hid] at h
      refine ⟨identifier, rfl, ?_⟩
      cases hd : identifier.digitPrefixed <;> simp only [hd] at h <;> cases h <;> rfl

theorem run_phraseOf_fst (translations : List (Translation String)) (key : String) :
    ((phraseOf entry metadata translations key).run s).1 =
      if (translations.filter (·.language != Language.english)).all
          fun t => (unknownArguments (placeholders entry.name) t).isEmpty then
        some ⟨key, phraseTexts entry.name translations, placeholders entry.name⟩
      else none := by
  unfold phraseOf
  simp only [run_bind]
  split <;> rfl

/-- The phrase of an entry: its sentence gives an identifier, and no translation into another
language has an argument of its own. -/
theorem of_returned_validatePhrase {phrase : Phrase}
    (h : returned (validatePhrase entry metadata) s = some phrase) :
    ∃ translations identifier, Identifier.ofSentence entry.name = .ok identifier ∧
      (∀ t ∈ translations, t.language ≠ Language.english →
        unknownArguments (placeholders entry.name) t = []) ∧
      phrase = ⟨identifier.text, phraseTexts entry.name translations, placeholders entry.name⟩ := by
  obtain ⟨translations, s₁, -, h⟩ := of_run_bind_eq_some h rfl
  obtain ⟨key, s₂, hkey, h⟩ := of_run_bind_eq_some h rfl
  obtain ⟨identifier, hid, rfl⟩ := of_run_entryKey hkey
  rw [run_phraseOf_fst] at h
  split at h
  next hall =>
    refine ⟨translations, identifier, hid, fun t ht hforeign => ?_, (Option.some.inj h).symm⟩
    have hmem : t ∈ translations.filter (·.language != Language.english) :=
      List.mem_filter.2 ⟨ht, bne_iff_ne.2 hforeign⟩
    exact List.isEmpty_iff.1 (List.all_eq_true.1 hall t hmem)
  next => cases h

/-- The noun of an entry: its name gives an identifier, and the languages with both forms are in
it. -/
theorem of_returned_validateNoun {noun : Noun}
    (h : returned (validateNoun entry metadata) s = some noun) :
    ∃ (translations : List (Translation (List String))) (identifier : Identifier),
      Identifier.ofSentence entry.name = .ok identifier ∧
      let forms := translations.filterMap fun t => (forms? t).map fun f => (t.language, f)
      noun = ⟨identifier.text, .ofList (forms.map fun f => (f.1, f.2.1)),
        .ofList (forms.map fun f => (f.1, f.2.2))⟩ := by
  obtain ⟨translations, s₁, -, h⟩ := of_run_bind_eq_some h rfl
  obtain ⟨key, s₂, hkey, h⟩ := of_run_bind_eq_some h rfl
  obtain ⟨identifier, hid, rfl⟩ := of_run_entryKey hkey
  exact ⟨translations, identifier, hid, (Option.some.inj h).symm⟩

/-- A version is returned as it stands unless it is blank. -/
theorem returned_versionOf (node : Node) :
    returned (versionOf node) s = "" ∨
      ∃ c ∈ (returned (versionOf node) s).toList, Text.isBlank c = false := by
  unfold versionOf returned
  split
  · exact .inl rfl
  · split
    next version _ =>
      cases hblank : Text.blank version.toList with
      | true => exact .inl rfl
      | false =>
          obtain ⟨c, hc, hnonblank⟩ := List.all_eq_false.1 hblank
          exact .inr ⟨c, hc, Bool.eq_false_iff.2 hnonblank⟩
    next => exact .inl rfl

theorem mem_codes_of_isListed {code : String} (h : Language.isListed code = true) :
    code ∈ Language.codes := by
  rw [Language.isListed, beq_iff_eq] at h
  exact Array.mem_of_getElem? h

/-- A declared language that is not left out is in the table. -/
theorem mem_codes_of_returned_languageOf {element : Node} {language : String}
    (h : returned (languageOf element) s = some language) : language ∈ Language.codes := by
  unfold languageOf at h
  split at h
  · cases h
  · next code _ =>
    cases hvalid : Language.validate code with
    | error error =>
        rw [hvalid] at h
        cases h
    | ok normal =>
        rw [hvalid] at h
        cases h
        simp only [Language.validate] at hvalid
        split at hvalid
        · cases hvalid
        · split at hvalid
          next hlisted =>
            cases hvalid
            exact mem_codes_of_isListed hlisted
          next => cases hvalid

theorem returned_metadataOf (node : Node) :
    returned (metadataOf node) s =
      ((node.get? "languages").bind Node.elements?).map fun elements =>
        ⟨elements.filterMap fun element => returned (languageOf element) s,
          returned (versionOf node) s⟩ := by
  unfold metadataOf
  cases helements : (node.get? "languages").bind Node.elements? with
  | none => rfl
  | some elements =>
      rw [Option.map_some, ← returned_collect additive_languageOf, returned, run_bind,
        additive_versionOf node s.cleared]
      show ((collect languageOf elements >>= _).run _).1 = _
      rw [run_bind, additive_collect additive_languageOf elements]
      rfl

end value

/-! ## consistent parts -/

section consistent

variable {s : Sink} {entry : Property} {metadata : Metadata}

theorem mem_of_unknownArguments_eq_nil {arguments : List String} {t : Translation String}
    {argument : String} (h : unknownArguments arguments t = [])
    (hargument : argument ∈ placeholders t.value) : argument ∈ arguments := by
  have hknown := List.filter_eq_nil_iff.1 h argument (mem_distinct.2 hargument)
  simpa using hknown

theorem consistent_validatePhrase {phrase : Phrase}
    (h : returned (validatePhrase entry metadata) s = some phrase) : phrase.Consistent := by
  obtain ⟨translations, identifier, hid, hknown, rfl⟩ := of_returned_validatePhrase h
  constructor
  · exact ⟨entry.name, Translations.get?_insert_self .., ⟨identifier, hid, rfl⟩, rfl⟩
  · intro language text htext argument hargument
    rw [phraseTexts, Translations.get?_insert] at htext
    split at htext
    next =>
      -- the sentence itself stands for English, whatever the entry gives
      cases htext
      exact hargument
    next hforeign =>
      obtain ⟨t, ht, heq⟩ := List.mem_map.1 (Translations.mem_of_get?_ofList _ _ _ htext)
      cases heq
      exact mem_of_unknownArguments_eq_nil (hknown t ht hforeign) hargument

theorem consistent_validateNoun {noun : Noun}
    (h : returned (validateNoun entry metadata) s = some noun) : noun.Consistent := by
  obtain ⟨translations, identifier, -, rfl⟩ := of_returned_validateNoun h
  constructor
  rw [Translations.languages_ofList, Translations.languages_ofList, List.map_map, List.map_map]
  rfl

theorem consistent_validateMetadata {root : Node}
    (h : returned (validateMetadata root) s = some metadata) : metadata.Consistent := by
  unfold validateMetadata at h
  split at h
  · cases h
  · split at h
    · rw [returned_metadataOf] at h
      obtain ⟨elements, -, rfl⟩ := Option.map_eq_some_iff.1 h
      constructor
      · intro language hlanguage
        obtain ⟨element, -, helement⟩ := List.mem_filterMap.1 hlanguage
        exact mem_codes_of_returned_languageOf helement
      · exact returned_versionOf _
    · cases h

/-- A phrase of a document is returned for one of its entries. -/
theorem of_mem_phrasesOf {root : Node} {phrase : Phrase} (h : phrase ∈ phrasesOf root metadata s) :
    ∃ node entry, sectionOf? root .phrases = some node ∧ entry ∈ node.properties ∧
      returned (validatePhrase entry metadata) s = some phrase := by
  unfold phrasesOf at h
  split at h
  next node hnode =>
    obtain ⟨entry, hmem, hentry⟩ := List.mem_filterMap.1 h
    exact ⟨node, entry, hnode, hmem, hentry⟩
  next => cases h

/-- A noun of a document is returned for one of its entries. -/
theorem of_mem_nounsOf {root : Node} {noun : Noun} (h : noun ∈ nounsOf root metadata s) :
    ∃ node entry, sectionOf? root .nouns = some node ∧ entry ∈ node.properties ∧
      returned (validateNoun entry metadata) s = some noun := by
  unfold nounsOf at h
  split at h
  next node hnode =>
    obtain ⟨entry, hmem, hentry⟩ := List.mem_filterMap.1 h
    exact ⟨node, entry, hnode, hmem, hentry⟩
  next => cases h

end consistent

/-! ## every run -/

/-- The book of a check is empty, or that of the entries of a document with usable metadata. -/
theorem data_validate (text fileId : String) (options : Options) :
    (validate text fileId options).data = .empty ∨
      ∃ root metadata, readDocument text = .ok root ∧
        returned (validateMetadata root) (.ofString text fileId) = some metadata ∧
        (validate text fileId options).data =
          ⟨metadata, phrasesOf root metadata (.ofString text fileId),
            nounsOf root metadata (.ofString text fileId)⟩ := by
  unfold validate
  cases hread : readDocument text with
  | error fault =>
      rw [run_of_fault hread]
      exact .inl rfl
  | ok root =>
      cases hm : returned (validateMetadata root) (.ofString text fileId) with
      | none =>
          rw [run_of_unusable hread hm]
          exact .inl rfl
      | some metadata =>
          rw [run_of_usable hread hm]
          exact .inr ⟨root, metadata, rfl, hm, rfl⟩

/-- **Every book is consistent**, whatever the text, the name of the file and the options. -/
theorem consistent_validate (text fileId : String) (options : Options) :
    (validate text fileId options).data.Consistent := by
  obtain hempty | ⟨root, metadata, _, hm, hdata⟩ := data_validate text fileId options
  · rw [hempty]
    exact consistent_empty
  · rw [hdata]
    constructor
    · exact consistent_validateMetadata hm
    · intro phrase hphrase
      obtain ⟨_, entry, _, _, hentry⟩ := of_mem_phrasesOf hphrase
      exact consistent_validatePhrase hentry
    · intro noun hnoun
      obtain ⟨_, entry, _, _, hentry⟩ := of_mem_nounsOf hnoun
      exact consistent_validateNoun hentry

end Phrasebook
