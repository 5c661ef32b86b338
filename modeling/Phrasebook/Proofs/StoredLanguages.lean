import Phrasebook.Proofs.LowerCase
import Phrasebook.Proofs.MetadataVerdict

/-!
# Phrasebook.Proofs.StoredLanguages

The languages of a book are in normal form.

1. The normal form of a code is its own normal form (`Language.normalize_normalize`): trimming
   leaves no blanks at the ends, lower case brings none there, and both are settled.
2. A language of a book is English, which every phrase has, or it is spelled somewhere in the
   document: by a declaration, or by the name of a property in an entry that is kept (`Stores`).
3. What a spelling is stored under is its normal form (`Stores.key_eq`), so spellings with one
   normal form, and no others, share a key.
-/

namespace Phrasebook

open Text

/-! ## normal forms -/

namespace Language

theorem toList_normalize (code : String) : (normalize code).toList = lower (trim code.toList) :=
  String.toList_ofList

/-- The normal form of a code is its own normal form. -/
theorem normalize_normalize (code : String) : normalize (normalize code) = normalize code := by
  have htrim : trim (lower (trim code.toList)) = lower (trim code.toList) :=
    (trimmed_trim code.toList).lower.trim_eq_self
  rw [normalize, toList_normalize, htrim, lower_lower, ← normalize]

theorem normalize_english : normalize english = english := by decide +kernel

end Language

/-! ## spellings and keys -/

/-- All languages that a book mentions: those of its metadata, and those into which its phrases and
nouns are translated. -/
def Book.languages (b : Book) : List String :=
  b.metadata.languages ++ b.phrases.flatMap (·.translations.languages) ++
    b.nouns.flatMap fun noun => noun.singular.languages ++ noun.plural.languages

/-- A document spells a language, and the book has it under a key. -/
inductive Stores (root : Node) (metadata : Metadata) (s : Sink) :
    (spelling key : String) → Prop where
  /-- A declaration of the metadata. -/
  | declared {elements : List Node} {element : Node} {spelling key : String} :
      root.metadata?.bind Node.languages? = some elements → element ∈ elements →
      element.text? = some spelling → returned (languageOf element) s = some key →
      Stores root metadata s spelling key
  /-- A property of an entry that becomes a phrase. -/
  | translated {entry p : Property} {phrase : Phrase} {t : Translation String} :
      entry ∈ sectionEntries root .phrases →
      returned (validatePhrase entry metadata) s = some phrase →
      p ∈ entry.value.properties → readTranslation? Node.text? p = some t →
      Stores root metadata s p.name t.language
  /-- A property of an entry that becomes a noun, with both forms in its language. -/
  | inflected {entry p : Property} {noun : Noun} {t : Translation (List String)} :
      entry ∈ sectionEntries root .nouns → returned (validateNoun entry metadata) s = some noun →
      p ∈ entry.value.properties → readTranslation? texts? p = some t →
      t.language ∈ noun.singular.languages → Stores root metadata s p.name t.language

section entries

variable {α : Type} {read : Node → Option α} {p : Property} {t : Translation α} {entry : Property}
  {metadata : Metadata} {s : Sink} {language : String}

theorem language_of_readTranslation? (h : readTranslation? read p = some t) :
    t.language = Language.normalize p.name := by
  obtain ⟨value, -, rfl⟩ := Option.map_eq_some_iff.1 h
  rfl

/-- The translations of an entry are into the languages of its properties. -/
theorem mem_languages_translationsOf :
    language ∈ (translationsOf read entry).map (·.language) ↔
      ∃ p ∈ entry.value.properties, ∃ t, readTranslation? read p = some t ∧
        t.language = language := by
  rw [translationsOf, mem_map_distinctOn, List.mem_map]
  simp only [List.mem_filterMap]
  constructor
  · rintro ⟨t, ⟨p, hp, hread⟩, rfl⟩
    exact ⟨p, hp, t, hread, rfl⟩
  · rintro ⟨p, hp, t, hread, rfl⟩
    exact ⟨t, ⟨p, hp, hread⟩, rfl⟩

/-- A phrase has English and the languages of the properties of its entry. -/
theorem mem_languages_phrase {phrase : Phrase}
    (h : returned (validatePhrase entry metadata) s = some phrase) :
    language ∈ phrase.translations.languages ↔ language = Language.english ∨
      ∃ p ∈ entry.value.properties, ∃ t,
        readTranslation? Node.text? p = some t ∧ t.language = language := by
  obtain hgiven | ⟨identifier, -, -, hret, -⟩ := validatePhrase_cases entry metadata s
  · rw [hgiven.returned] at h
    cases h
  · rw [hret, (phraseOf_parts ..).1] at h
    split at h
    · cases h
      rw [Translations.mem_languages, phraseTexts, Translations.get?_insert,
        ← mem_languages_translationsOf]
      split
      next heq => simp [heq]
      next hne => rw [Translations.isSome_get?_ofList, List.map_map, or_iff_right hne]; rfl
    · cases h

/-- A noun has its singular and its plural in languages of the properties of its entry. -/
theorem exists_property_of_mem_languages_noun {noun : Noun}
    (h : returned (validateNoun entry metadata) s = some noun)
    (hlanguage : language ∈ noun.singular.languages) :
    ∃ p ∈ entry.value.properties, ∃ t, readTranslation? texts? p = some t ∧
      t.language = language := by
  obtain hgiven | ⟨identifier, -, -, hret, -⟩ := validateNoun_cases entry metadata s
  · rw [hgiven.returned] at h
    cases h
  · rw [hret, (nounOf_parts ..).1] at h
    cases h
    rw [Translations.mem_languages, Translations.isSome_get?_ofList, List.map_map] at hlanguage
    exact mem_languages_translationsOf.1 ((sublist_formsOf _).subset hlanguage)

end entries

section book

variable {root : Node} {metadata : Metadata} {s : Sink} {spelling key language : String}

/-- An element that is accepted spells a language, in normal form. -/
theorem exists_text_of_returned_languageOf {element : Node}
    (h : returned (languageOf element) s = some key) :
    ∃ spelling, element.text? = some spelling ∧ key = Language.normalize spelling := by
  rw [(languageOf_parts s element).1, Node.code?, Option.filter_eq_some_iff] at h
  obtain ⟨spelling, htext, rfl⟩ := Option.map_eq_some_iff.1 h.1
  exact ⟨spelling, htext, rfl⟩

/-- The languages of metadata are those of the elements that are accepted. -/
theorem exists_elements_of_returned_validateMetadata
    (h : returned (validateMetadata root) s = some metadata) :
    ∃ elements, root.metadata?.bind Node.languages? = some elements ∧
      metadata.languages = elements.filterMap fun element => returned (languageOf element) s := by
  rw [validateMetadata_eq, ← Node.metadata?] at h
  cases hsection : root.metadata? with
  | none =>
      rw [hsection] at h
      cases h
  | some node =>
      simp only [hsection, returned_metadataOf] at h
      obtain ⟨elements, helements, rfl⟩ := Option.map_eq_some_iff.1 h
      exact ⟨elements, helements, rfl⟩

theorem Book.mem_languages {b : Book} :
    language ∈ b.languages ↔ language ∈ b.metadata.languages ∨
      (∃ phrase ∈ b.phrases, language ∈ phrase.translations.languages) ∨
      ∃ noun ∈ b.nouns, language ∈ noun.singular.languages ∨ language ∈ noun.plural.languages := by
  simp only [Book.languages, List.mem_append, List.mem_flatMap, or_assoc]

/-- The book that is made of a document with usable metadata. -/
def bookOf (root : Node) (metadata : Metadata) (s : Sink) : Book :=
  ⟨metadata, phrasesOf root metadata s, nounsOf root metadata s⟩

/-- What a spelling is stored under is its normal form. -/
theorem Stores.key_eq (h : Stores root metadata s spelling key) :
    key = Language.normalize spelling := by
  cases h with
  | declared _ _ htext hkey =>
      obtain ⟨other, hother, rfl⟩ := exists_text_of_returned_languageOf hkey
      cases htext.symm.trans hother
      rfl
  | translated _ _ _ hread => exact language_of_readTranslation? hread
  | inflected _ _ _ hread => exact language_of_readTranslation? hread

/-- A language of a book is English, or the document spells it. -/
theorem exists_spelling_of_mem_languages (h : returned (validateMetadata root) s = some metadata)
    (hlanguage : language ∈ (bookOf root metadata s).languages) :
    language = Language.english ∨ ∃ spelling, Stores root metadata s spelling language := by
  obtain hdeclared | ⟨phrase, hphrase, htranslated⟩ | ⟨noun, hnoun, hinflected⟩ :=
    Book.mem_languages.1 hlanguage
  · obtain ⟨elements, helements, hlanguages⟩ := exists_elements_of_returned_validateMetadata h
    have hmem : language ∈ metadata.languages := hdeclared
    rw [hlanguages] at hmem
    obtain ⟨element, helement, hkey⟩ := List.mem_filterMap.1 hmem
    obtain ⟨spelling, htext, -⟩ := exists_text_of_returned_languageOf hkey
    exact .inr ⟨spelling, .declared helements helement htext hkey⟩
  · have hmem : phrase ∈ phrasesOf root metadata s := hphrase
    rw [phrasesOf_eq] at hmem
    obtain ⟨entry, hentry, hreturned⟩ := List.mem_filterMap.1 hmem
    obtain henglish | ⟨p, hp, t, hread, rfl⟩ := (mem_languages_phrase hreturned).1 htranslated
    · exact .inl henglish
    · exact .inr ⟨p.name, .translated hentry hreturned hp hread⟩
  · have hmem : noun ∈ nounsOf root metadata s := hnoun
    rw [nounsOf_eq] at hmem
    obtain ⟨entry, hentry, hreturned⟩ := List.mem_filterMap.1 hmem
    have hsingular : language ∈ noun.singular.languages := by
      rwa [(consistent_validateNoun hreturned).languages, or_self,
        ← (consistent_validateNoun hreturned).languages] at hinflected
    obtain ⟨p, hp, t, hread, rfl⟩ := exists_property_of_mem_languages_noun hreturned hsingular
    exact .inr ⟨p.name, .inflected hentry hreturned hp hread hsingular⟩

/-- The key of a spelling is a language of the book. -/
theorem Stores.mem_languages (hm : returned (validateMetadata root) s = some metadata)
    (h : Stores root metadata s spelling key) : key ∈ (bookOf root metadata s).languages := by
  rw [Book.mem_languages]
  cases h with
  | declared helements helement htext hkey =>
      obtain ⟨others, hothers, hlanguages⟩ := exists_elements_of_returned_validateMetadata hm
      cases helements.symm.trans hothers
      left
      show key ∈ metadata.languages
      rw [hlanguages]
      exact List.mem_filterMap.2 ⟨_, helement, hkey⟩
  | translated hentry hreturned hp hread =>
      refine .inr (.inl ⟨_, ?_, (mem_languages_phrase hreturned).2 (.inr ⟨_, hp, _, hread, rfl⟩)⟩)
      show _ ∈ phrasesOf root metadata s
      rw [phrasesOf_eq]
      exact List.mem_filterMap.2 ⟨_, hentry, hreturned⟩
  | inflected hentry hreturned hp hread hmem =>
      refine .inr (.inr ⟨_, ?_, .inl hmem⟩)
      show _ ∈ nounsOf root metadata s
      rw [nounsOf_eq]
      exact List.mem_filterMap.2 ⟨_, hentry, hreturned⟩

/-- All languages of a book are in normal form. -/
theorem normalize_of_mem_languages (h : returned (validateMetadata root) s = some metadata)
    (hlanguage : language ∈ (bookOf root metadata s).languages) :
    Language.normalize language = language := by
  obtain rfl | ⟨spelling, hstores⟩ := exists_spelling_of_mem_languages h hlanguage
  · exact Language.normalize_english
  · rw [hstores.key_eq, Language.normalize_normalize]

end book

/-- **Languages are stored in normal form**, which is its own normal form.  For every document with
usable metadata, each language of the book is English or spelled in the document, each spelling has
its key in the book, and two spellings have the same key just if their normal forms are equal. -/
theorem languages_stored_canonically (text fileId : String) (options : Options) :
    (∀ code, Language.normalize (Language.normalize code) = Language.normalize code) ∧
    (∀ language ∈ (validate text fileId options).data.languages,
      Language.normalize language = language) ∧
    ∀ root metadata, readDocument text = .ok root →
      returned (validateMetadata root) (.ofString text fileId) = some metadata →
      (∀ language ∈ (validate text fileId options).data.languages, language = Language.english ∨
        ∃ spelling, Stores root metadata (.ofString text fileId) spelling language) ∧
      ∀ spelling key, Stores root metadata (.ofString text fileId) spelling key →
        key ∈ (validate text fileId options).data.languages ∧
        ∀ other key', Stores root metadata (.ofString text fileId) other key' →
          (key = key' ↔ Language.normalize spelling = Language.normalize other) := by
  refine ⟨Language.normalize_normalize, fun language hlanguage => ?_,
    fun root metadata hread hm => ?_⟩
  · obtain hempty | ⟨root, metadata, -, hm, hdata⟩ := data_validate text fileId options
    · rw [hempty] at hlanguage
      cases hlanguage
    · rw [hdata] at hlanguage
      exact normalize_of_mem_languages hm hlanguage
  · rw [validate_of_usable hread hm]
    refine ⟨fun language => exists_spelling_of_mem_languages hm, fun spelling key hstores => ?_⟩
    refine ⟨hstores.mem_languages hm, fun other key' hother => ?_⟩
    rw [hstores.key_eq, hother.key_eq]

/-- German spelled in three ways, and a name that ends in a capital sigma. -/
def shoutingText : String :=
  "\x7bmetadata:\x7blanguages:['EN',' De']\x7d," ++
    "phrases:\x7bHi:\x7b'DE ':'Hallo','ΟΔΟΣ':'Ja'\x7d\x7d," ++
    "nouns:\x7bdog:\x7b'dE':['Hund','Hunde']\x7d\x7d\x7d"

/-- The property of `shoutingText` for German. -/
def shoutingProperty : Property := ⟨"DE ", ⟨48, 5⟩, .string ⟨54, 7⟩ "Hallo", false⟩

/-- The property of `shoutingText` with a sigma. -/
def sigmaProperty : Property := ⟨"ΟΔΟΣ", ⟨62, 10⟩, .string ⟨73, 4⟩ "Ja", false⟩

/-- The phrase of `shoutingText`. -/
def shoutingEntry : Property :=
  ⟨"Hi", ⟨44, 2⟩, .object ⟨47, 31⟩ [shoutingProperty, sigmaProperty], false⟩

/-- The noun of `shoutingText`. -/
def shoutingNoun : Property :=
  ⟨"dog", ⟨87, 3⟩, .object ⟨91, 23⟩
    [⟨"dE", ⟨92, 4⟩, .array ⟨97, 16⟩ [.string ⟨98, 6⟩ "Hund", .string ⟨105, 7⟩ "Hunde"], false⟩],
    false⟩

/-- What `shoutingText` is read as. -/
def shoutingRoot : Node :=
  .object ⟨0, 116⟩ [
    ⟨"metadata", ⟨1, 8⟩, .object ⟨10, 24⟩
      [⟨"languages", ⟨11, 9⟩, .array ⟨21, 12⟩ [.string ⟨22, 4⟩ "EN", .string ⟨27, 5⟩ " De"],
        false⟩], false⟩,
    ⟨"phrases", ⟨35, 7⟩, .object ⟨43, 36⟩ [shoutingEntry], false⟩,
    ⟨"nouns", ⟨80, 5⟩, .object ⟨86, 29⟩ [shoutingNoun], false⟩]

theorem languages_stored_canonically_shoutingText :
    let book := (validate shoutingText "book" {}).data
    let sink := Sink.ofString shoutingText "book"
    readDocument shoutingText = .ok shoutingRoot ∧
      returned (validateMetadata shoutingRoot) sink = some ⟨["en", "de"], ""⟩ ∧
      Stores shoutingRoot ⟨["en", "de"], ""⟩ sink "DE " "de" ∧
      Stores shoutingRoot ⟨["en", "de"], ""⟩ sink "ΟΔΟΣ" "οδος" ∧
      "οδος" ∈ book.languages ∧ Language.normalize "οδος" = "οδος" ∧
      ("de" = "οδος" ↔ Language.normalize "DE " = Language.normalize "ΟΔΟΣ") := by
  intro book sink
  obtain ⟨-, hnormal, hdocument⟩ := languages_stored_canonically shoutingText "book" {}
  have hroot : readDocument shoutingText = .ok shoutingRoot := by
    set_option maxRecDepth 4000 in with_unfolding_all rfl
  have hmetadata : returned (validateMetadata shoutingRoot) sink = some ⟨["en", "de"], ""⟩ := by
    decide +kernel
  have hphrase :
      (returned (validatePhrase shoutingEntry ⟨["en", "de"], ""⟩) sink).isSome = true := by
    decide +kernel
  obtain ⟨phrase, hphrase⟩ := Option.isSome_iff_exists.1 hphrase
  have hentry : shoutingEntry ∈ sectionEntries shoutingRoot .phrases := List.mem_singleton.2 rfl
  have hread (p : Property) (text key : String) (htext : p.value.text? = some text)
      (hkey : Language.normalize p.name = key) :
      readTranslation? Node.text? p = some ⟨key, p.value, text⟩ := by
    rw [readTranslation?, htext, ← hkey]
    rfl
  have hgerman : Stores shoutingRoot ⟨["en", "de"], ""⟩ sink "DE " "de" :=
    .translated (p := shoutingProperty) hentry hphrase (.head _)
      (hread _ "Hallo" "de" rfl (by decide +kernel))
  have hsigma : Stores shoutingRoot ⟨["en", "de"], ""⟩ sink "ΟΔΟΣ" "οδος" :=
    .translated (p := sigmaProperty) hentry hphrase (.tail _ (.head _))
      (hread _ "Ja" "οδος" rfl (by decide +kernel))
  obtain ⟨-, hkeys⟩ := hdocument _ _ hroot hmetadata
  have hmem := (hkeys _ _ hsigma).1
  exact ⟨hroot, hmetadata, hgerman, hsigma, hmem, hnormal _ hmem, (hkeys _ _ hgerman).2 _ _ hsigma⟩

end Phrasebook
