import Mathlib.Data.List.Forall2
import Phrasebook.Proofs.Consistency
import Phrasebook.Proofs.EntryReading

/-!
# Phrasebook.Proofs.PhraseVerdict

What the check of a phrase comes to.

`PhraseVerdict` says it by the words of the document alone: whether the entry becomes a phrase, and
which problems are reported, in which order and where.  It decides about every entry in one way only
(`PhraseVerdict.unique`), and the check keeps to it (`phrases_judged_exactly`).
-/

namespace Phrasebook

/-! ## the verdict -/

/-- The diagnostics of problems at their places. -/
def Sink.locateAll (s : Sink) (problems : List (Span × Problem)) : List Diagnostic :=
  problems.map fun p => s.locate p.1 p.2

/-- The declared languages that a phrase lacks, each once: English is never among them. -/
def missingLanguages (metadata : Metadata) (translations : List (Translation String)) :
    List String :=
  (distinct metadata.languages).filter fun l =>
    l ≠ Language.english ∧ l ∉ translations.map (·.language)

/-- The translations of a phrase that are into no declared language, and not into English. -/
def extraTranslations (metadata : Metadata) (translations : List (Translation String)) :
    List (Translation String) :=
  translations.filter fun t => t.language ≠ Language.english ∧ t.language ∉ metadata.languages

/-- The problems with the arguments of a translation: those that its sentence does not have, and
then those that the translation does not use, each once. -/
def argumentProblems (key sentence : String) (t : Translation String) : List (Span × Problem) :=
  ((distinct (placeholders t.value)).filter (· ∉ placeholders sentence)).map
      (fun argument => (t.node.span, .extraPhraseArgument key argument t.language)) ++
    ((distinct (placeholders sentence)).filter (· ∉ placeholders t.value)).map
      fun argument => (t.node.span, .missingPhraseArgument key argument t.language)

/-- The problems of a phrase that has a key. -/
def phraseProblems (entry : Property) (metadata : Metadata) (identifier : Identifier)
    (translations : List (Translation String)) : List (Span × Problem) :=
  (if identifier.digitPrefixed then [(entry.nameSpan, .keyStartsWithDigit entry.name)] else []) ++
    (missingLanguages metadata translations).map
      (fun language => (entry.value.span, .missingTranslation identifier.text language)) ++
    (extraTranslations metadata translations).map
      (fun t => (t.node.span, .extraTranslation identifier.text t.language)) ++
    (foreignTranslations translations).flatMap (argumentProblems identifier.text entry.name)

/-- A translation that is not into English uses an argument that its sentence does not have. -/
def Translation.Strays (sentence : String) (t : Translation String) : Prop :=
  t.language ≠ Language.english ∧ ∃ argument ∈ placeholders t.value,
    argument ∉ placeholders sentence

/-- A phrase is made from a sentence and its translations: the sentence itself stands for
English. -/
structure Phrase.MadeFrom (phrase : Phrase) (sentence : String) (identifier : Identifier)
    (translations : List (Translation String)) : Prop where
  key : phrase.key = identifier.text
  arguments : phrase.arguments = placeholders sentence
  english : phrase.translations.get? Language.english = some sentence
  foreign : ∀ language, language ≠ Language.english → ∀ text,
    phrase.translations.get? language = some text ↔
      ∃ t ∈ translations, t.language = language ∧ t.value = text

/-- What becomes of an entry of the phrases, and which problems are reported. -/
inductive PhraseVerdict (entry : Property) (metadata : Metadata) :
    Option Phrase → List (Span × Problem) → Prop where
  /-- The value is no object of strings. -/
  | refused {place : Span} {problem : Problem} :
      entry.Refused "a string" Node.text? place problem →
      PhraseVerdict entry metadata none [(place, problem)]
  /-- The sentence gives no key. -/
  | unnamed {error : IdentifierError} :
      entry.HasShape Node.text? → Identifier.ofSentence entry.name = .error error →
      PhraseVerdict entry metadata none [(entry.nameSpan, .invalidJsonFormat error.message)]
  /-- A translation has an argument of its own. -/
  | dropped {identifier : Identifier} {translations : List (Translation String)} :
      entry.HasShape Node.text? → Identifier.ofSentence entry.name = .ok identifier →
      List.Forall₂ (Member.Gives Node.text?) entry.languageProperties translations →
      (∃ t ∈ translations, t.Strays entry.name) →
      PhraseVerdict entry metadata none (phraseProblems entry metadata identifier translations)
  | kept {identifier : Identifier} {translations : List (Translation String)} {phrase : Phrase} :
      entry.HasShape Node.text? → Identifier.ofSentence entry.name = .ok identifier →
      List.Forall₂ (Member.Gives Node.text?) entry.languageProperties translations →
      (¬ ∃ t ∈ translations, t.Strays entry.name) →
      phrase.MadeFrom entry.name identifier translations →
      PhraseVerdict entry metadata (some phrase)
        (phraseProblems entry metadata identifier translations)

/-! ## one verdict for each entry -/

section unique

variable {entry : Property} {metadata : Metadata} {translations others : List (Translation String)}
  {identifier : Identifier} {phrase phrase' : Phrase}

theorem translations_unique
    (h : List.Forall₂ (Member.Gives Node.text?) entry.languageProperties translations)
    (h' : List.Forall₂ (Member.Gives Node.text?) entry.languageProperties others) :
    translations = others :=
  List.right_unique_forall₂' (fun _ _ _ ht hu => ht.unique hu) h h'

theorem Phrase.MadeFrom.unique (h : phrase.MadeFrom entry.name identifier translations)
    (h' : phrase'.MadeFrom entry.name identifier translations) : phrase = phrase' := by
  have htranslations : phrase.translations = phrase'.translations := by
    refine Translations.ext_get? fun language => ?_
    by_cases henglish : language = Language.english
    · rw [henglish, h.english, h'.english]
    · refine Option.ext fun text => ?_
      rw [h.foreign language henglish, h'.foreign language henglish]
  obtain ⟨_, _, _⟩ := phrase
  obtain ⟨_, _, _⟩ := phrase'
  obtain rfl : _ = _ := h.key.trans h'.key.symm
  obtain rfl : _ = _ := h.arguments.trans h'.arguments.symm
  obtain rfl := htranslations
  rfl

/-- No entry has two verdicts. -/
theorem PhraseVerdict.unique {result result' : Option Phrase}
    {problems problems' : List (Span × Problem)} (h : PhraseVerdict entry metadata result problems)
    (h' : PhraseVerdict entry metadata result' problems') :
    result = result' ∧ problems = problems' := by
  cases h with
  | refused hrefused =>
      cases h' with
      | refused hrefused' =>
          obtain ⟨rfl, rfl⟩ := hrefused.unique hrefused'
          exact ⟨rfl, rfl⟩
      | unnamed hshape | dropped hshape | kept hshape => exact absurd hshape hrefused.not_hasShape
  | unnamed hshape herror =>
      cases h' with
      | refused hrefused => exact absurd hshape hrefused.not_hasShape
      | unnamed _ herror' =>
          cases herror.symm.trans herror'
          exact ⟨rfl, rfl⟩
      | dropped _ hid | kept _ hid => cases herror.symm.trans hid
  | dropped hshape hid htranslations hstrays =>
      cases h' with
      | refused hrefused => exact absurd hshape hrefused.not_hasShape
      | unnamed _ herror => cases hid.symm.trans herror
      | dropped _ hid' htranslations' =>
          cases hid.symm.trans hid'
          cases translations_unique htranslations htranslations'
          exact ⟨rfl, rfl⟩
      | kept _ _ htranslations' hnone =>
          cases translations_unique htranslations htranslations'
          exact absurd hstrays hnone
  | kept hshape hid htranslations hnone hmade =>
      cases h' with
      | refused hrefused => exact absurd hshape hrefused.not_hasShape
      | unnamed _ herror => cases hid.symm.trans herror
      | dropped _ _ htranslations' hstrays =>
          cases translations_unique htranslations htranslations'
          exact absurd hstrays hnone
      | kept _ hid' htranslations' _ hmade' =>
          cases hid.symm.trans hid'
          cases translations_unique htranslations htranslations'
          exact ⟨congrArg some (hmade.unique hmade'), rfl⟩

end unique

/-! ## the check keeps to the verdict -/

section check

variable {entry : Property} {metadata : Metadata} {translations : List (Translation String)}
  {identifier : Identifier} {s : Sink}

theorem locateAll_argumentProblems (key sentence : String) (t : Translation String) (s : Sink) :
    s.locateAll (argumentProblems key sentence t) =
      reported (reportArguments key (placeholders sentence) t) s := by
  rw [reported_reportArguments, Sink.locateAll, argumentProblems, List.map_append,
    List.map_map, List.map_map]
  simp [unknownArguments, unusedArguments, Function.comp_def]

theorem missingLanguages_eq (metadata : Metadata) (translations : List (Translation String)) :
    missingLanguages metadata translations =
      distinct ((metadata.languages.filter (· != Language.english)).filter
        fun language => !(translations.map (·.language)).contains language) := by
  rw [List.filter_filter, distinct_filter, missingLanguages]
  refine List.filter_congr fun language _ => ?_
  rw [Bool.eq_iff_iff]
  simp [and_comm]

/-- What is reported for a phrase with a key are the problems of the verdict. -/
theorem reported_phraseOf (entry : Property) (metadata : Metadata)
    (translations : List (Translation String)) (identifier : Identifier) (s : Sink) :
    digitReports entry identifier s ++
        reported (phraseOf entry metadata translations identifier.text) s =
      s.locateAll (phraseProblems entry metadata identifier translations) := by
  have hdigit : s.locateAll
        (if identifier.digitPrefixed then [(entry.nameSpan, .keyStartsWithDigit entry.name)]
          else []) =
      digitReports entry identifier s := by
    rw [digitReports]
    split <;> rfl
  have hextra : (foreignTranslations translations).filter
        (fun t => !metadata.languages.contains t.language) =
      extraTranslations metadata translations := by
    rw [foreignTranslations, List.filter_filter, extraTranslations]
    refine List.filter_congr fun t _ => ?_
    rw [Bool.eq_iff_iff]
    simp [and_comm]
  have harguments : s.locateAll ((foreignTranslations translations).flatMap
        (argumentProblems identifier.text entry.name)) =
      (foreignTranslations translations).flatMap fun t =>
        reported (reportArguments identifier.text (placeholders entry.name) t) s := by
    rw [Sink.locateAll, List.map_flatMap]
    exact List.flatMap_congr fun t _ => locateAll_argumentProblems identifier.text entry.name t s
  rw [(phraseOf_parts ..).2, reported_reportMissing, reported_reportExtra, hextra,
    ← missingLanguages_eq, ← hdigit, ← harguments]
  simp [phraseProblems, Sink.locateAll, Function.comp_def]

theorem isEmpty_unknownArguments_iff {t : Translation String} {sentence : String} :
    (unknownArguments (placeholders sentence) t).isEmpty = true ↔
      ¬ ∃ argument ∈ placeholders t.value, argument ∉ placeholders sentence := by
  simp [unknownArguments]

/-- No translation has an argument of its own just if the check finds none. -/
theorem all_isEmpty_iff :
    ((foreignTranslations translations).all fun t =>
      (unknownArguments (placeholders entry.name) t).isEmpty) = true ↔
        ¬ ∃ t ∈ translations, t.Strays entry.name := by
  simp only [List.all_eq_true, isEmpty_unknownArguments_iff, foreignTranslations, List.mem_filter,
    bne_iff_ne, Translation.Strays, not_exists, not_and, and_imp]

theorem madeFrom_phraseTexts (sentence : String) (identifier : Identifier)
    (hnodup : (translations.map (·.language)).Nodup) :
    (⟨identifier.text, phraseTexts sentence translations, placeholders sentence⟩ :
      Phrase).MadeFrom sentence identifier translations where
  key := rfl
  arguments := rfl
  english := Translations.get?_insert_self ..
  foreign language hforeign text := by
    have hkeys : ((translations.map fun t => (t.language, t.value)).map (·.1)).Nodup := by
      rwa [List.map_map]
    show (phraseTexts sentence translations).get? language = some text ↔ _
    rw [phraseTexts, Translations.get?_insert, if_neg hforeign,
      Translations.get?_ofList_eq_some_iff _ _ _ hkeys]
    simp

variable (hproperties : entry.value.properties = entry.firstProperties)

include hproperties

/-- The check of a phrase comes to the verdict. -/
theorem verdict_validatePhrase (metadata : Metadata) (s : Sink) :
    ∃ problems, PhraseVerdict entry metadata (returned (validatePhrase entry metadata) s) problems ∧
      reported (validatePhrase entry metadata) s = s.locateAll problems := by
  rw [validatePhrase_eq_readEntry]
  by_cases hshape : entry.HasShape Node.text?
  · obtain ⟨hret, hrep⟩ :=
      readEntry_of_hasShape (phraseOf entry metadata) hproperties "a string" hshape s
    have htranslations := forall₂_translationsOf hproperties hshape
    obtain ⟨error, hid, hnone, hone⟩ | ⟨identifier, hid, hresult, hreports⟩ :=
      withKey_cases (additive_phraseOf entry metadata (translationsOf Node.text? entry)) entry s
    · rw [hret, hrep, hnone, hone]
      exact ⟨_, .unnamed hshape hid, rfl⟩
    · rw [hret, hrep, hresult, hreports, reported_phraseOf, (phraseOf_parts ..).1]
      refine ⟨_, ?_, rfl⟩
      split
      next hall =>
        exact .kept hshape hid htranslations (all_isEmpty_iff.1 hall)
          (madeFrom_phraseTexts entry.name identifier (nodup_languages Node.text? entry))
      next hnot =>
        exact .dropped hshape hid htranslations (Classical.not_not.1 fun hnone =>
          hnot (all_isEmpty_iff.2 hnone))
  · obtain ⟨place, problem, hrefused⟩ := Member.exists_refused "a string" hshape
    obtain ⟨hret, hrep⟩ := readEntry_of_refused (phraseOf entry metadata) hproperties hrefused s
    rw [hret, hrep]
    exact ⟨_, .refused hrefused, rfl⟩

end check

section report

variable {text : String} {root : Node} {span : Span} {ms : List Property} {entry : Property}

/-- **Phrases are judged exactly**: for every member of a document and all metadata, the check
returns and reports what the verdict says, and the verdict says one thing only. -/
theorem phrases_judged_exactly (h : readDocument text = .ok root)
    (hobject : root.Contains (.object span ms)) (hentry : entry ∈ ms)
    (metadata : Metadata) (s : Sink) :
    ∃ problems, PhraseVerdict entry metadata (returned (validatePhrase entry metadata) s) problems ∧
      reported (validatePhrase entry metadata) s = s.locateAll problems ∧
      ∀ result others, PhraseVerdict entry metadata result others →
        result = returned (validatePhrase entry metadata) s ∧ others = problems := by
  obtain ⟨problems, hverdict, hreports⟩ :=
    verdict_validatePhrase (Member.properties_eq h hobject hentry) metadata s
  exact ⟨problems, hverdict, hreports, fun _ _ hother => hother.unique hverdict⟩

end report

/-- A phrase with two names for one language, a text of its own for English, a repeated argument and
translations that do not keep to the arguments. -/
def mixedText : String :=
  "\x7bphrases:\x7b'2 \x7ba\x7d \x7bb\x7d \x7ba\x7d':" ++
    "\x7bde:'\x7ba\x7d',DE:'\x7bc\x7d',en:'\x7bz\x7d'," ++
    "FR:'\x7bc\x7d\x7bb\x7d\x7bc\x7d',de:[]\x7d\x7d\x7d"

/-- The phrase of `mixedText`. -/
def mixedEntry : Property :=
  ⟨"2 \x7ba\x7d \x7bb\x7d \x7ba\x7d", ⟨10, 15⟩,
    .object ⟨26, 49⟩
      [⟨"de", ⟨27, 2⟩, .string ⟨30, 5⟩ "\x7ba\x7d", false⟩,
        ⟨"DE", ⟨36, 2⟩, .string ⟨39, 5⟩ "\x7bc\x7d", false⟩,
        ⟨"en", ⟨45, 2⟩, .string ⟨48, 5⟩ "\x7bz\x7d", false⟩,
        ⟨"FR", ⟨54, 2⟩, .string ⟨57, 11⟩ "\x7bc\x7d\x7bb\x7d\x7bc\x7d", false⟩,
        ⟨"de", ⟨69, 2⟩, .array ⟨72, 2⟩ [], true⟩], false⟩

/-- What `mixedText` is read as. -/
def mixedRoot : Node := .object ⟨0, 77⟩ [⟨"phrases", ⟨1, 7⟩, .object ⟨9, 67⟩ [mixedEntry], false⟩]

/-- Metadata with a repeated language. -/
def mixedMetadata : Metadata := ⟨["nl", "de", "nl", "en"], "1"⟩

/-- The translations of `mixedEntry`. -/
def mixedTranslations : List (Translation String) :=
  [⟨"de", .string ⟨30, 5⟩ "\x7ba\x7d", "\x7ba\x7d"⟩,
    ⟨"en", .string ⟨48, 5⟩ "\x7bz\x7d", "\x7bz\x7d"⟩,
    ⟨"fr", .string ⟨57, 11⟩ "\x7bc\x7d\x7bb\x7d\x7bc\x7d", "\x7bc\x7d\x7bb\x7d\x7bc\x7d"⟩]

theorem phrases_judged_exactly_mixedText :
    readDocument mixedText = .ok mixedRoot ∧
      returned (validatePhrase mixedEntry mixedMetadata) (Sink.ofString mixedText "book") = none ∧
      reported (validatePhrase mixedEntry mixedMetadata) (Sink.ofString mixedText "book") =
        (Sink.ofString mixedText "book").locateAll
          [(⟨10, 15⟩, .keyStartsWithDigit "2 \x7ba\x7d \x7bb\x7d \x7ba\x7d"),
            (⟨26, 49⟩, .missingTranslation "d2___" "nl"),
            (⟨57, 11⟩, .extraTranslation "d2___" "fr"),
            (⟨30, 5⟩, .missingPhraseArgument "d2___" "b" "de"),
            (⟨57, 11⟩, .extraPhraseArgument "d2___" "c" "fr"),
            (⟨57, 11⟩, .missingPhraseArgument "d2___" "a" "fr")] := by
  have hroot : readDocument mixedText = .ok mixedRoot := by
    set_option maxRecDepth 4000 in with_unfolding_all rfl
  have hcontains : mixedRoot.Contains (.object ⟨9, 67⟩ [mixedEntry]) :=
    .member (List.mem_singleton.2 rfl) (.self _)
  have hproperties : mixedEntry.languageProperties =
      [⟨"de", ⟨27, 2⟩, .string ⟨30, 5⟩ "\x7ba\x7d", false⟩,
        ⟨"en", ⟨45, 2⟩, .string ⟨48, 5⟩ "\x7bz\x7d", false⟩,
        ⟨"FR", ⟨54, 2⟩, .string ⟨57, 11⟩ "\x7bc\x7d\x7bb\x7d\x7bc\x7d", false⟩] := by
    with_unfolding_all rfl
  have hshape : mixedEntry.HasShape Node.text? := by decide
  have hid : Identifier.ofSentence mixedEntry.name = .ok ⟨"d2___", true⟩ := by
    with_unfolding_all rfl
  have htranslations :
      List.Forall₂ (Member.Gives Node.text?) mixedEntry.languageProperties mixedTranslations := by
    rw [hproperties]
    exact .cons ⟨rfl, rfl, rfl⟩ (.cons ⟨rfl, rfl, rfl⟩ (.cons ⟨rfl, rfl, rfl⟩ .nil))
  have hstrays : ∃ t ∈ mixedTranslations, t.Strays mixedEntry.name :=
    ⟨_, .tail _ (.tail _ (.head _)), by decide, "c", by decide, by decide⟩
  obtain ⟨problems, -, hreports, honly⟩ :=
    phrases_judged_exactly hroot hcontains (List.mem_singleton.2 rfl) mixedMetadata
      (Sink.ofString mixedText "book")
  obtain ⟨hnone, rfl⟩ := honly none _ (.dropped hshape hid htranslations hstrays)
  exact ⟨hroot, hnone.symm, hreports⟩

end Phrasebook
