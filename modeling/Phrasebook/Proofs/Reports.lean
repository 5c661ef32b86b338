import Phrasebook.Proofs.Consistency

/-!
# Phrasebook.Proofs.Reports

What the checks of single entries and of the metadata return and report.

1. An entry that cannot be read, or whose name gives no key, is given up with one report.
2. Any other entry is handed on with its translations and its key.  Every problem that is then found
   gives one report at the name of the entry, at its value, or at the value of one of its
   translations (`Member.places`).
3. Metadata are given up with one report behind that of the version; otherwise every declared
   language is taken over or reported.

For each check one lemma says all that it can do.
-/

namespace Phrasebook

variable {α β : Type} {s : Sink} {entry : Property} {metadata : Metadata}

/-! ## entries that can be read -/

/-- The spans at which the problems of an entry are reported. -/
def Member.places (entry : Property) : List Span :=
  entry.nameSpan :: entry.value.span :: entry.value.properties.map (·.value.span)

theorem mem_places {place : Span} :
    place ∈ entry.places ↔
      place = entry.nameSpan ∨ place = entry.value.span ∨
        ∃ p ∈ entry.value.properties, p.value.span = place := by
  rw [Member.places, List.mem_cons, List.mem_cons, List.mem_map]

theorem nameSpan_mem_places : entry.nameSpan ∈ entry.places := mem_places.2 (.inl rfl)

theorem span_mem_places : entry.value.span ∈ entry.places := mem_places.2 (.inr (.inl rfl))

theorem span_property_mem_places {p : Property} (hp : p ∈ entry.value.properties) :
    p.value.span ∈ entry.places := mem_places.2 (.inr (.inr ⟨p, hp, rfl⟩))

/-- An entry is an object, and gives values of one kind only. -/
structure Member.Readable (entry : Property) (read : Node → Option α) : Prop where
  isObject : entry.value.isObject = true
  values : ∀ p ∈ entry.value.properties, (read p.value).isSome = true

/-- The translations that an entry gives; of several into one language the first one. -/
def translationsOf (read : Node → Option α) (entry : Property) : List (Translation α) :=
  distinctOn (·.language) (entry.value.properties.filterMap (readTranslation? read))

/-- A translation is what one of the properties gives. -/
theorem of_mem_translationsOf {read : Node → Option α} {t : Translation α}
    (h : t ∈ translationsOf read entry) :
    ∃ p ∈ entry.value.properties, t.language = Language.normalize p.name ∧ t.node = p.value ∧
      read p.value = some t.value := by
  obtain ⟨p, hp, hread⟩ := List.mem_filterMap.1 ((distinctOn_sublist _ _).subset h)
  obtain ⟨value, hvalue, rfl⟩ := Option.map_eq_some_iff.1 hread
  exact ⟨p, hp, rfl, rfl, hvalue⟩

theorem span_translation_mem_places {read : Node → Option α} {t : Translation α}
    (h : t ∈ translationsOf read entry) : t.node.span ∈ entry.places := by
  obtain ⟨p, hp, -, hnode, -⟩ := of_mem_translationsOf h
  rw [hnode]
  exact span_property_mem_places hp

theorem readTranslations_cases (expected : String) (read : Node → Option α)
    (entry : Property) (s : Sink) :
    (∃ place ∈ entry.places, ∃ detail, ¬ entry.Readable read ∧
      returned (readTranslations expected read entry) s = none ∧
      reported (readTranslations expected read entry) s =
        [s.locate place (.jsonException detail)]) ∨
    entry.Readable read ∧
      returned (readTranslations expected read entry) s = some (translationsOf read entry) ∧
      reported (readTranslations expected read entry) s = [] := by
  unfold readTranslations
  by_cases hobject : entry.value.isObject = true
  · rw [if_pos hobject]
    cases hfind : entry.value.properties.find? fun p => (read p.value).isNone with
    | some p =>
        refine .inl ⟨p.value.span, span_property_mem_places (List.mem_of_find?_eq_some hfind), _,
          fun hreadable => ?_, rfl, rfl⟩
        have hsome := hreadable.values p (List.mem_of_find?_eq_some hfind)
        have hnone := List.find?_some hfind
        rw [Option.isNone_iff_eq_none] at hnone
        rw [hnone] at hsome
        cases hsome
    | none =>
        refine .inr ⟨⟨hobject, fun p hp => ?_⟩, rfl, rfl⟩
        exact Option.isNone_eq_false_iff.1 (Bool.not_eq_true _ ▸ List.find?_eq_none.1 hfind p hp)
  · rw [if_neg hobject]
    exact .inl ⟨entry.value.span, span_mem_places, _,
      fun hreadable => hobject hreadable.isObject, rfl, rfl⟩

/-! ## keys -/

/-- The diagnostic of a key that had to be given a letter in front. -/
def digitReports (entry : Property) (identifier : Identifier) (s : Sink) : List Diagnostic :=
  if identifier.digitPrefixed then [s.locate entry.nameSpan (.keyStartsWithDigit entry.name)]
    else []

theorem entryKey_cases (entry : Property) (s : Sink) :
    (∃ error, Identifier.ofSentence entry.name = .error error ∧ returned (entryKey entry) s = none ∧
      reported (entryKey entry) s = [s.locate entry.nameSpan (.invalidJsonFormat error.message)]) ∨
    ∃ identifier, Identifier.ofSentence entry.name = .ok identifier ∧
      returned (entryKey entry) s = some identifier.text ∧
      reported (entryKey entry) s = digitReports entry identifier s := by
  unfold entryKey digitReports
  cases Identifier.ofSentence entry.name with
  | error error => exact .inl ⟨error, rfl, rfl, rfl⟩
  | ok identifier =>
      refine .inr ⟨identifier, rfl, ?_⟩
      cases hd : identifier.digitPrefixed <;> simp only [hd] <;> exact ⟨rfl, rfl⟩

/-! ## from an entry to its translations and its key -/

/-- Hands the key of an entry on. -/
def withKey (entry : Property) (next : String → Check (Option β)) : Check (Option β) := do
  match ← entryKey entry with
  | none => pure none
  | some key => next key

/-- Reads an entry and hands its translations and its key on. -/
def readEntry (expected : String) (read : Node → Option α) (entry : Property)
    (next : List (Translation α) → String → Check (Option β)) : Check (Option β) := do
  match ← readTranslations expected read entry with
  | none => pure none
  | some translations => withKey entry (next translations)

theorem additive_withKey {next : String → Check (Option β)} (hnext : ∀ key, Additive (next key)) :
    Additive (withKey entry next) :=
  additive_bind_option (additive_entryKey entry) rfl hnext

theorem withKey_cases {next : String → Check (Option β)} (hnext : ∀ key, Additive (next key))
    (entry : Property) (s : Sink) :
    (∃ error, Identifier.ofSentence entry.name = .error error ∧
      returned (withKey entry next) s = none ∧
      reported (withKey entry next) s =
        [s.locate entry.nameSpan (.invalidJsonFormat error.message)]) ∨
    ∃ identifier, Identifier.ofSentence entry.name = .ok identifier ∧
      returned (withKey entry next) s = returned (next identifier.text) s ∧
      reported (withKey entry next) s =
        digitReports entry identifier s ++ reported (next identifier.text) s := by
  have hreturned : returned (withKey entry next) s =
      (returned (entryKey entry) s).bind fun key => returned (next key) s :=
    returned_bind_option (additive_entryKey entry) (by rfl) hnext s
  have hreported : reported (withKey entry next) s =
      reported (entryKey entry) s ++ (returned (entryKey entry) s).elim [] fun key =>
        reported (next key) s :=
    reported_bind_option (additive_entryKey entry) (by rfl) hnext s
  rw [hreturned, hreported]
  obtain ⟨error, hid, hret, hrep⟩ | ⟨identifier, hid, hret, hrep⟩ := entryKey_cases entry s
  · rw [hret, hrep]
    exact .inl ⟨error, hid, rfl, rfl⟩
  · rw [hret, hrep]
    exact .inr ⟨identifier, hid, rfl, rfl⟩

/-- A check gives an entry up with one report: the entry cannot be read, or its name gives no
key. -/
structure GivenUp (read : Node → Option α) (entry : Property)
    (check : Check (Option β)) (s : Sink) : Prop where
  returned : returned check s = none
  reported : ∃ place ∈ entry.places, ∃ problem : Problem,
    reported check s = [s.locate place problem] ∧
      (problem.code = .jsonException ∧ ¬ entry.Readable read ∨
        problem.code = .invalidJsonFormat ∧
        ∃ error, Identifier.ofSentence entry.name = .error error)

/-- What the check of an entry does: it gives the entry up, or does what `next` does with its
translations and its key. -/
theorem readEntry_cases {next : List (Translation α) → String → Check (Option β)}
    (hnext : ∀ translations key, Additive (next translations key)) (expected : String)
    (read : Node → Option α) (entry : Property) (s : Sink) :
    GivenUp read entry (readEntry expected read entry next) s ∨
    ∃ identifier, entry.Readable read ∧ Identifier.ofSentence entry.name = .ok identifier ∧
      returned (readEntry expected read entry next) s =
        returned (next (translationsOf read entry) identifier.text) s ∧
      reported (readEntry expected read entry next) s = digitReports entry identifier s ++
        reported (next (translationsOf read entry) identifier.text) s := by
  have hread (translations : List (Translation α)) : Additive (withKey entry (next translations)) :=
    additive_withKey (hnext translations)
  have hret : returned (readEntry expected read entry next) s =
      (returned (readTranslations expected read entry) s).bind fun translations =>
        returned (withKey entry (next translations)) s :=
    returned_bind_option (additive_readTranslations expected read entry) (by rfl) hread s
  have hrep : reported (readEntry expected read entry next) s =
      reported (readTranslations expected read entry) s ++
        (returned (readTranslations expected read entry) s).elim [] fun translations =>
          reported (withKey entry (next translations)) s :=
    reported_bind_option (additive_readTranslations expected read entry) (by rfl) hread s
  obtain ⟨place, hplace, detail, hnot, hnone, hone⟩ | ⟨hreadable, hsome, hnil⟩ :=
    readTranslations_cases expected read entry s
  · rw [hnone] at hret hrep
    rw [hone] at hrep
    exact .inl ⟨hret, place, hplace, .jsonException detail, hrep, .inl ⟨rfl, hnot⟩⟩
  · rw [hsome] at hret hrep
    rw [hnil, List.nil_append] at hrep
    obtain ⟨error, hid, hnone, hone⟩ | ⟨identifier, hid, hnext, hall⟩ :=
      withKey_cases (hnext (translationsOf read entry)) entry s
    · exact .inl ⟨hret.trans hnone, _, nameSpan_mem_places, .invalidJsonFormat error.message,
        hrep.trans hone, .inr ⟨rfl, error, hid⟩⟩
    · exact .inr ⟨identifier, hreadable, hid, hret.trans hnext, hrep.trans hall⟩

/-! ## languages without a translation, and translations without a language -/

theorem reported_reportMissing (entry : Property) (key : String) (required present : List String)
    (s : Sink) :
    reported (reportMissing entry key required present) s =
      (distinct (required.filter fun language => !present.contains language)).map fun language =>
        s.locate entry.value.span (.missingTranslation key language) :=
  reported_forEach_reportNode _ _ _ s

theorem reported_reportExtra (key : String) (known : List String)
    (translations : List (Translation α)) (s : Sink) :
    reported (reportExtra key known translations) s =
      (translations.filter fun t => !known.contains t.language).map fun t =>
        s.locate t.node.span (.extraTranslation key t.language) :=
  reported_forEach_reportNode _ _ _ s

theorem mem_reported_reportMissing {key : String}
    {required present : List String} {d : Diagnostic} :
    d ∈ reported (reportMissing entry key required present) s ↔
      ∃ language ∈ required, language ∉ present ∧
        d = s.locate entry.value.span (.missingTranslation key language) := by
  simp only [reported_reportMissing, List.mem_map, mem_distinct, List.mem_filter, Bool.not_eq_true',
    List.contains_eq_mem, decide_eq_false_iff_not, and_assoc, eq_comm (a := d)]

theorem mem_reported_reportExtra {key : String} {known : List String}
    {translations : List (Translation α)} {d : Diagnostic} :
    d ∈ reported (reportExtra key known translations) s ↔
      ∃ t ∈ translations, t.language ∉ known ∧
        d = s.locate t.node.span (.extraTranslation key t.language) := by
  simp only [reported_reportExtra, List.mem_map, List.mem_filter, Bool.not_eq_true',
    List.contains_eq_mem, decide_eq_false_iff_not, and_assoc, eq_comm (a := d)]

/-! ## phrases -/

theorem reported_reportArguments (key : String) (arguments : List String) (t : Translation String)
    (s : Sink) :
    reported (reportArguments key arguments t) s =
      (unknownArguments arguments t).map (fun argument =>
        s.locate t.node.span (.extraPhraseArgument key argument t.language)) ++
      (unusedArguments arguments t).map fun argument =>
        s.locate t.node.span (.missingPhraseArgument key argument t.language) := by
  rw [reportArguments, reported_bind (additive_forEach (fun _ => additive_reportNode _ _) _)
      fun _ => additive_forEach (fun _ => additive_reportNode _ _) _,
    reported_forEach_reportNode, reported_forEach_reportNode]

theorem mem_reported_reportArguments {key : String} {arguments : List String}
    {t : Translation String} {d : Diagnostic} :
    d ∈ reported (reportArguments key arguments t) s ↔
      (∃ argument ∈ unknownArguments arguments t,
        d = s.locate t.node.span (.extraPhraseArgument key argument t.language)) ∨
      ∃ argument ∈ unusedArguments arguments t,
        d = s.locate t.node.span (.missingPhraseArgument key argument t.language) := by
  simp only [reported_reportArguments, List.mem_append, List.mem_map, eq_comm (a := d)]

/-- The translations of a phrase that are checked against its sentence. -/
def foreignTranslations (translations : List (Translation String)) : List (Translation String) :=
  translations.filter fun t => t.language != Language.english

/-- The last step of the check of a phrase: it gives the phrase, or logs that there is none. -/
theorem additive_phraseUnless (c : Bool) (key : String) (phrase : Phrase) :
    Additive (if c then pure (some phrase)
      else do
        logEvent (.unknownArgument key)
        pure none : Check (Option Phrase)) := by
  cases c with
  | true => exact additive_pure _
  | false => exact (additive_logEvent _).bind fun _ => additive_pure _

theorem phraseOf_parts (entry : Property) (metadata : Metadata)
    (translations : List (Translation String)) (key : String) (s : Sink) :
    returned (phraseOf entry metadata translations key) s =
      (if (foreignTranslations translations).all
          fun t => (unknownArguments (placeholders entry.name) t).isEmpty then
        some ⟨key, phraseTexts entry.name translations, placeholders entry.name⟩
      else none) ∧
    reported (phraseOf entry metadata translations key) s =
      reported (reportMissing entry key (metadata.languages.filter (· != Language.english))
        (translations.map (·.language))) s ++
      (reported (reportExtra key metadata.languages (foreignTranslations translations)) s ++
      (foreignTranslations translations).flatMap fun t =>
        reported (reportArguments key (placeholders entry.name) t) s) := by
  refine ⟨run_phraseOf_fst translations key, ?_⟩
  have harguments := additive_forEach (additive_reportArguments key (placeholders entry.name))
    (foreignTranslations translations)
  have hextra := additive_reportExtra key metadata.languages (foreignTranslations translations)
  have hmissing := additive_reportMissing entry key
    (metadata.languages.filter (· != Language.english)) (translations.map (·.language))
  have hend := fun _ : Unit => additive_phraseUnless ((foreignTranslations translations).all
    fun t => (unknownArguments (placeholders entry.name) t).isEmpty) key
      ⟨key, phraseTexts entry.name translations, placeholders entry.name⟩
  unfold phraseOf
  refine (reported_bind hmissing (fun _ => hextra.bind fun _ => harguments.bind hend) s).trans ?_
  rw [reported_bind hextra fun _ => harguments.bind hend, reported_bind harguments hend,
    reported_forEach (additive_reportArguments _ _)]
  split
  · rw [reported_pure, List.append_nil]
  · rw [reported_bind (additive_logEvent _) fun _ => additive_pure _, reported_logEvent,
      reported_pure, List.append_nil, List.append_nil]

theorem mem_reported_phraseOf {translations : List (Translation String)}
    {key : String} {d : Diagnostic} :
    d ∈ reported (phraseOf entry metadata translations key) s ↔
      (∃ language ∈ metadata.languages, language ≠ Language.english ∧
        language ∉ translations.map (·.language) ∧
        d = s.locate entry.value.span (.missingTranslation key language)) ∨
      (∃ t ∈ foreignTranslations translations, t.language ∉ metadata.languages ∧
        d = s.locate t.node.span (.extraTranslation key t.language)) ∨
      ∃ t ∈ foreignTranslations translations,
        d ∈ reported (reportArguments key (placeholders entry.name) t) s := by
  simp only [(phraseOf_parts ..).2, List.mem_append, mem_reported_reportMissing,
    mem_reported_reportExtra, List.mem_flatMap, List.mem_filter, bne_iff_ne, and_assoc]

/-- The check of a phrase reads the entry and goes on with what it has read. -/
theorem validatePhrase_eq_readEntry (entry : Property) (metadata : Metadata) :
    validatePhrase entry metadata =
      readEntry "a string" Node.text? entry (phraseOf entry metadata) := by
  unfold validatePhrase readEntry withKey
  congr 1
  funext translations
  cases translations <;> rfl

/-- What the check of a phrase does. -/
theorem validatePhrase_cases (entry : Property) (metadata : Metadata) (s : Sink) :
    GivenUp Node.text? entry (validatePhrase entry metadata) s ∨
    ∃ identifier, entry.Readable Node.text? ∧ Identifier.ofSentence entry.name = .ok identifier ∧
      returned (validatePhrase entry metadata) s =
        returned (phraseOf entry metadata (translationsOf Node.text? entry) identifier.text) s ∧
      reported (validatePhrase entry metadata) s = digitReports entry identifier s ++
        reported (phraseOf entry metadata (translationsOf Node.text? entry) identifier.text) s := by
  rw [validatePhrase_eq_readEntry]
  exact readEntry_cases (additive_phraseOf entry metadata) "a string" Node.text? entry s

/-! ## nouns -/

/-- The translations of a noun that lack a form. -/
def incompleteTranslations (translations : List (Translation (List String))) :
    List (Translation (List String)) :=
  translations.filter fun t => (forms? t).isNone

/-- The forms that the translations of a noun give. -/
def formsOf (translations : List (Translation (List String))) : List (String × String × String) :=
  translations.filterMap fun t => (forms? t).map fun f => (t.language, f)

/-- Keys survive where items are made into others or dropped. -/
theorem sublist_map_filterMap {γ : Type} {f : α → Option β} {before : α → γ} {behind : β → γ}
    (hf : ∀ a b, f a = some b → behind b = before a) (items : List α) :
    ((items.filterMap f).map behind).Sublist (items.map before) := by
  induction items with
  | nil => exact .slnil
  | cons a rest ih =>
      rw [List.filterMap_cons, List.map_cons]
      cases ha : f a with
      | none => exact ih.cons _
      | some b =>
          rw [← hf a b ha]
          exact ih.cons_cons _

/-- A noun has at most the languages of its translations. -/
theorem sublist_formsOf (ts : List (Translation (List String))) :
    ((formsOf ts).map (·.1)).Sublist (ts.map (·.language)) := by
  refine sublist_map_filterMap (fun t f hf => ?_) ts
  obtain ⟨_, _, rfl⟩ := Option.map_eq_some_iff.1 hf
  rfl

theorem nounOf_parts (entry : Property) (metadata : Metadata)
    (translations : List (Translation (List String))) (key : String) (s : Sink) :
    returned (nounOf entry metadata translations key) s =
      ⟨key, .ofList ((formsOf translations).map fun f => (f.1, f.2.1)),
        .ofList ((formsOf translations).map fun f => (f.1, f.2.2))⟩ ∧
    reported (nounOf entry metadata translations key) s =
      reported (reportMissing entry key (nounLanguages metadata)
        (translations.map (·.language))) s ++
      (reported (reportExtra key (nounLanguages metadata) translations) s ++
      (incompleteTranslations translations).map fun t =>
        s.locate t.node.span (.nounIsIncomplete key t.language)) := by
  refine ⟨rfl, ?_⟩
  have hmissing := additive_reportMissing entry key (nounLanguages metadata)
    (translations.map (·.language))
  have hextra := additive_reportExtra key (nounLanguages metadata) translations
  have hincomplete := additive_forEach (fun t : Translation (List String) =>
    additive_reportNode t.node (.nounIsIncomplete key t.language))
      (incompleteTranslations translations)
  unfold nounOf
  refine (reported_bind hmissing (fun _ => hextra.bind fun _ => hincomplete.bind fun _ =>
    additive_pure _) s).trans ?_
  rw [reported_bind hextra fun _ => hincomplete.bind fun _ => additive_pure _,
    reported_bind hincomplete fun _ => additive_pure _, incompleteTranslations,
    reported_forEach_reportNode, reported_pure, List.append_nil]

theorem mem_reported_nounOf {translations : List (Translation (List String))} {key : String}
    {d : Diagnostic} :
    d ∈ reported (nounOf entry metadata translations key) s ↔
      (∃ language ∈ nounLanguages metadata, language ∉ translations.map (·.language) ∧
        d = s.locate entry.value.span (.missingTranslation key language)) ∨
      (∃ t ∈ translations, t.language ∉ nounLanguages metadata ∧
        d = s.locate t.node.span (.extraTranslation key t.language)) ∨
      ∃ t ∈ translations, forms? t = none ∧
        d = s.locate t.node.span (.nounIsIncomplete key t.language) := by
  simp only [(nounOf_parts ..).2, List.mem_append, mem_reported_reportMissing,
    mem_reported_reportExtra, incompleteTranslations, List.mem_map, List.mem_filter,
    Option.isNone_iff_eq_none, and_assoc, eq_comm (a := d)]

/-- What a check of nouns does with the translations and the key of an entry. -/
def someNounOf (entry : Property) (metadata : Metadata)
    (translations : List (Translation (List String))) (key : String) : Check (Option Noun) :=
  nounOf entry metadata translations key >>= fun noun => pure (some noun)

section someNounOf

variable (entry : Property) (metadata : Metadata) (translations : List (Translation (List String)))
  (key : String)

theorem additive_someNounOf : Additive (someNounOf entry metadata translations key) :=
  (additive_nounOf entry metadata translations key).bind fun _ => additive_pure _

theorem someNounOf_parts (s : Sink) :
    returned (someNounOf entry metadata translations key) s =
      some (returned (nounOf entry metadata translations key) s) ∧
    reported (someNounOf entry metadata translations key) s =
      reported (nounOf entry metadata translations key) s := by
  have hnoun := additive_nounOf entry metadata translations key
  constructor
  · rw [someNounOf, returned_bind hnoun fun _ => additive_pure _, returned_pure]
  · rw [someNounOf, reported_bind hnoun fun _ => additive_pure _, reported_pure, List.append_nil]

end someNounOf

/-- The check of a noun reads the entry and goes on with what it has read. -/
theorem validateNoun_eq_readEntry (entry : Property) (metadata : Metadata) :
    validateNoun entry metadata =
      readEntry "an array of strings" texts? entry (someNounOf entry metadata) := by
  unfold validateNoun readEntry withKey
  congr 1
  funext translations
  cases translations <;> rfl

/-- What the check of a noun does. -/
theorem validateNoun_cases (entry : Property) (metadata : Metadata) (s : Sink) :
    GivenUp texts? entry (validateNoun entry metadata) s ∨
    ∃ identifier, entry.Readable texts? ∧ Identifier.ofSentence entry.name = .ok identifier ∧
      returned (validateNoun entry metadata) s =
        some (returned (nounOf entry metadata (translationsOf texts? entry) identifier.text) s) ∧
      reported (validateNoun entry metadata) s = digitReports entry identifier s ++
        reported (nounOf entry metadata (translationsOf texts? entry) identifier.text) s := by
  rw [validateNoun_eq_readEntry]
  obtain hgiven | ⟨identifier, hreadable, hid, hret, hrep⟩ :=
    readEntry_cases (additive_someNounOf entry metadata) "an array of strings" texts? entry s
  · exact .inl hgiven
  · rw [(someNounOf_parts ..).1] at hret
    rw [(someNounOf_parts ..).2] at hrep
    exact .inr ⟨identifier, hreadable, hid, hret, hrep⟩

/-! ## metadata -/

/-- A version that is missing is reported in its place. -/
theorem versionOf_cases (node : Node) (s : Sink) :
    reported (versionOf node) s = [] ∨
      reported (versionOf node) s =
        [s.locate ((node.get? "version").getD node).span .noVersionFound] := by
  unfold versionOf
  split
  next hnone =>
    rw [hnone]
    exact .inr rfl
  next version hversion =>
    rw [hversion]
    split
    · split
      · exact .inr rfl
      · exact .inl rfl
    · exact .inr rfl

/-- An element of the languages gives a language or one report. -/
theorem languageOf_cases (element : Node) (s : Sink) :
    (∃ code language, element.text? = some code ∧ Language.validate code = .ok language ∧
      returned (languageOf element) s = some language ∧ reported (languageOf element) s = []) ∨
    ∃ reason, returned (languageOf element) s = none ∧
      reported (languageOf element) s = [s.locate element.span (.invalidLanguage reason)] := by
  unfold languageOf
  split
  · exact .inr ⟨_, rfl, rfl⟩
  next code hcode =>
    split
    next language hlanguage => exact .inl ⟨code, language, hcode, hlanguage, rfl, rfl⟩
    next => exact .inr ⟨_, rfl, rfl⟩

/-- The metadata of a document are an object `node`, and its languages an array. -/
structure Node.Declares (root node : Node) (elements : List Node) : Prop where
  metadata : root.get? "metadata" = some node
  isObject : node.isObject = true
  languages : (node.get? "languages").bind Node.elements? = some elements

theorem metadataOf_cases (node : Node) (s : Sink) :
    ((node.get? "languages").bind Node.elements? = none ∧ returned (metadataOf node) s = none ∧
      reported (metadataOf node) s = reported (versionOf node) s ++
        [s.locate ((node.get? "languages").getD node).span .noLanguagesFound]) ∨
    ∃ elements, (node.get? "languages").bind Node.elements? = some elements ∧
      returned (metadataOf node) s = some ⟨elements.filterMap fun element =>
        returned (languageOf element) s, returned (versionOf node) s⟩ ∧
      reported (metadataOf node) s = reported (versionOf node) s ++
        elements.flatMap fun element => reported (languageOf element) s := by
  rw [returned_metadataOf]
  unfold metadataOf
  cases hlanguages : (node.get? "languages").bind Node.elements? with
  | none =>
      refine .inl ⟨rfl, rfl, ?_⟩
      rw [reported_bind (additive_versionOf node) fun _ =>
        (additive_reportNode _ _).bind fun _ => additive_pure _]
      rfl
  | some elements =>
      refine .inr ⟨elements, rfl, rfl, ?_⟩
      have hcollect := additive_collect additive_languageOf elements
      rw [reported_bind (additive_versionOf node) fun _ => hcollect.bind fun _ => additive_pure _,
        reported_bind hcollect fun _ => additive_pure _, reported_pure, List.append_nil,
        reported_collect additive_languageOf]

/-- What the check of the metadata does: it gives them up for want of the section or of its
languages, or takes the languages over one by one. -/
theorem validateMetadata_cases (root : Node) (s : Sink) :
    (returned (validateMetadata root) s = none ∧
      reported (validateMetadata root) s =
        [s.locate ((root.get? "metadata").getD root).span .noMetadata]) ∨
    (∃ node, root.get? "metadata" = some node ∧ returned (validateMetadata root) s = none ∧
      reported (validateMetadata root) s = reported (versionOf node) s ++
        [s.locate ((node.get? "languages").getD node).span .noLanguagesFound]) ∨
    ∃ node elements, root.Declares node elements ∧
      returned (validateMetadata root) s = some ⟨elements.filterMap fun element =>
        returned (languageOf element) s, returned (versionOf node) s⟩ ∧
      reported (validateMetadata root) s = reported (versionOf node) s ++
        elements.flatMap fun element => reported (languageOf element) s := by
  unfold validateMetadata
  split
  next hnone =>
    rw [hnone]
    exact .inl ⟨rfl, rfl⟩
  next node hnode =>
    by_cases hobject : node.isObject = true
    · rw [if_pos hobject]
      obtain ⟨-, hret, hrep⟩ | ⟨elements, hlanguages, hret, hrep⟩ := metadataOf_cases node s
      · exact .inr (.inl ⟨node, hnode, hret, hrep⟩)
      · exact .inr (.inr ⟨node, elements, ⟨hnode, hobject, hlanguages⟩, hret, hrep⟩)
    · rw [if_neg hobject, hnode]
      exact .inl ⟨rfl, rfl⟩

/-- Metadata that declare languages can be used. -/
theorem exists_returned_of_declares {root node : Node} {elements : List Node}
    (h : root.Declares node elements) (s : Sink) :
    ∃ metadata, returned (validateMetadata root) s = some metadata := by
  rw [validateMetadata, h.metadata]
  simp only [h.isObject, if_true, returned_metadataOf, h.languages, Option.map_some]
  exact ⟨_, rfl⟩

/-! ## sections -/

/-- The entries of a section: the members of its object whose names are not repeated. -/
def sectionEntries (root : Node) (entries : Section) : List Property :=
  match sectionOf? root entries with
  | some node => node.properties
  | none => []

theorem phrasesOf_eq (root : Node) (metadata : Metadata) (s : Sink) :
    phrasesOf root metadata s =
      (sectionEntries root .phrases).filterMap fun entry =>
        returned (validatePhrase entry metadata) s := by
  unfold phrasesOf sectionEntries
  cases sectionOf? root .phrases <;> rfl

theorem nounsOf_eq (root : Node) (metadata : Metadata) (s : Sink) :
    nounsOf root metadata s =
      (sectionEntries root .nouns).filterMap fun entry =>
        returned (validateNoun entry metadata) s := by
  unfold nounsOf sectionEntries
  cases sectionOf? root .nouns <;> rfl

/-- Where a function gives something just for the items of a kind, mapping what it gives is mapping
these items. -/
theorem map_filterMap_eq {α β γ : Type} {f : α → Option β} {g : β → γ} {k : α → γ} {p : α → Bool}
    {items : List α} (hp : ∀ a ∈ items, p a = (f a).isSome)
    (hf : ∀ a ∈ items, ∀ b, f a = some b → g b = k a) :
    (items.filterMap f).map g = (items.filter p).map k := by
  induction items with
  | nil => rfl
  | cons a rest ih =>
      have hrest := ih (fun a ha => hp a (List.mem_cons_of_mem _ ha))
        fun a ha => hf a (List.mem_cons_of_mem _ ha)
      have ha := hp a List.mem_cons_self
      cases hfa : f a with
      | none =>
          rw [hfa] at ha
          rw [List.filterMap_cons_none hfa, List.filter_cons_of_neg (by simp [ha]), hrest]
      | some b =>
          rw [hfa] at ha
          rw [List.filterMap_cons_some hfa, List.filter_cons_of_pos (by simp [ha]), List.map_cons,
            List.map_cons, hf a List.mem_cons_self b hfa, hrest]

/-- Where a function gives something for every item, mapping what it gives is mapping the items. -/
theorem map_filterMap_eq_map {α β γ : Type} {f : α → Option β} {g : β → γ} {k : α → γ}
    {items : List α} (hf : ∀ a ∈ items, ∃ b, f a = some b ∧ g b = k a) :
    (items.filterMap f).map g = items.map k := by
  have hmap : (items.filterMap f).map g = (items.filter fun _ => true).map k := by
    refine map_filterMap_eq (fun a ha => ?_) fun a ha b hb => ?_
    · obtain ⟨b, hb, -⟩ := hf a ha
      rw [hb, Option.isSome_some]
    · obtain ⟨b', hb', hg⟩ := hf a ha
      cases hb.symm.trans hb'
      exact hg
  rw [hmap, List.filter_eq_self.2 fun _ _ => rfl]

section membership

variable {root : Node} {options : Options} {phrases : List Phrase} {d : Diagnostic}

theorem mem_repetitionReports :
    d ∈ repetitionReports options root s ↔ options.duplicateKeys = .reject ∧
      ∃ m ∈ root.repetitions, d = s.locate m.nameSpan (.duplicateKey m.name) := by
  unfold repetitionReports
  split
  next hreject => simp only [hreject, true_and, List.mem_map, eq_comm (a := d)]
  next hfirst => simp only [hfirst, false_and, List.not_mem_nil]

theorem mem_phraseReports :
    d ∈ phraseReports root metadata s ↔
      (sectionOf? root .phrases = none ∧
        d = s.locate (sectionPlace root .phrases).span .noPhrasesFound) ∨
      ∃ entry ∈ sectionEntries root .phrases, d ∈ reported (validatePhrase entry metadata) s := by
  unfold phraseReports sectionEntries
  cases sectionOf? root .phrases with
  | none =>
      simp only [List.mem_singleton, true_and, List.not_mem_nil, false_and, exists_false, or_false]
  | some node => simp only [reduceCtorEq, false_and, false_or, List.mem_flatMap]

theorem mem_nounReports :
    d ∈ nounReports options root metadata phrases s ↔
      (sectionOf? root .nouns = none ∧ options.missingNouns = .warn ∧
        d = s.locate (sectionPlace root .nouns).span .noNounsFound) ∨
      ∃ entry ∈ sectionEntries root .nouns, d ∈ reported (validateNoun entry metadata) s ∨
        d ∈ nounCollisions options phrases entry s (returned (validateNoun entry metadata) s) := by
  unfold nounReports sectionEntries
  cases sectionOf? root .nouns with
  | none =>
      by_cases hwarn : options.missingNouns = .warn
      · simp only [hwarn, if_true, List.mem_singleton, true_and, List.not_mem_nil, false_and,
          exists_false, or_false]
      · simp only [hwarn, if_false, false_and, and_false, List.not_mem_nil, exists_false, or_false]
  | some node => simp only [reduceCtorEq, false_and, false_or, List.mem_flatMap, List.mem_append]

/-- The diagnostics of some kind that the section of nouns reports, where this is not the kind of a
missing section: those of its entries, one entry behind the other. -/
theorem filter_nounReports (options : Options) (root : Node) (metadata : Metadata)
    (phrases : List Phrase) {s : Sink} {p : Diagnostic → Bool}
    (hmissing : ∀ span, p (s.locate span .noNounsFound) = false) :
    (nounReports options root metadata phrases s).filter p =
      (sectionEntries root .nouns).flatMap fun entry =>
        (reported (validateNoun entry metadata) s ++ nounCollisions options phrases entry s
          (returned (validateNoun entry metadata) s)).filter p := by
  unfold nounReports sectionEntries
  cases sectionOf? root .nouns with
  | none => by_cases hwarn : options.missingNouns = .warn <;> simp [hwarn, hmissing]
  | some node => simp only [List.filter_flatMap]

end membership

/-! ## outcomes -/

section outcome

variable {text fileId : String} {options : Options} {root : Node}

theorem validate_of_fault {fault : Fault} (h : readDocument text = .error fault) :
    validate text fileId options =
      ⟨.empty, [(Sink.ofString text fileId).locate fault.span (.jsonException fault.detail)]⟩ := by
  rw [validate, run_of_fault h]

theorem validate_of_unusable (h : readDocument text = .ok root)
    (hm : returned (validateMetadata root) (.ofString text fileId) = none) :
    validate text fileId options = ⟨.empty, headReports options root (.ofString text fileId)⟩ := by
  rw [validate, run_of_unusable h hm]

theorem validate_of_usable (h : readDocument text = .ok root)
    (hm : returned (validateMetadata root) (.ofString text fileId) = some metadata) :
    validate text fileId options =
      ⟨⟨metadata, phrasesOf root metadata (.ofString text fileId),
          nounsOf root metadata (.ofString text fileId)⟩,
        headReports options root (.ofString text fileId) ++
          sectionReports options root metadata (.ofString text fileId)⟩ := by
  rw [validate, run_of_usable h hm]

end outcome

end Phrasebook
