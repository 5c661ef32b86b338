import Phrasebook.Proofs.EntryReading

/-!
# Phrasebook.Proofs.TranslationOrder

The order of translations does not matter.

Where the members of an entry are for different languages, none of them is repeated, so that they
can be put into another order.  Then:

1. the translations that are read are the same, in another order (`perm_translationsOf`);
2. what a check makes of translations does not depend on their order, and what it returns does not
   depend on the declared languages either (`returned_phraseOf_of_perm`,
   `returned_someNounOf_of_perm`);
3. a check that reads an entry and goes on in this way does not care for the order
   (`indifferent_readEntry`).
-/

namespace Phrasebook

variable {α β : Type}

/-- An entry whose value is an object with these members. -/
def Member.arranged (entry : Property) (order : List Property) : Property :=
  { entry with value := .object entry.value.span order }

/-- A check cares neither for the order of the members of an entry nor, in what it returns, for the
declared languages: `entry` has the members in one order, `arranged` in another. -/
structure Indifferent (check : Property → Metadata → Check (Option β)) (read : Node → Option α)
    (members : List Property) (entry arranged : Property) (s : Sink) : Prop where
  result : ∀ metadata other, returned (check entry metadata) s = returned (check arranged other) s
  /-- If all values are of the right kind, the same is reported, in another order. -/
  reports : (∀ p ∈ members, (read p.value).isSome = true) → ∀ metadata,
    (reported (check entry metadata) s).Perm (reported (check arranged metadata) s)
  /-- If one is not, there is one report in either order. -/
  refusal : (∃ p ∈ members, read p.value = none) → ∀ metadata other,
    (∃ d, d.code = .jsonException ∧ reported (check entry metadata) s = [d]) ∧
      ∃ d, d.code = .jsonException ∧ reported (check arranged other) s = [d]

/-! ## the order of translations -/

section translations

variable {entry entry' : Property} {metadata other : Metadata} {key : String} {s : Sink}

theorem contains_languages_of_perm {ts us : List (Translation α)}
    (hperm : ts.Perm us) (language : String) :
    (ts.map (·.language)).contains language = (us.map (·.language)).contains language :=
  (hperm.map _).contains_eq

/-- Missing languages are reported alike. -/
theorem reported_reportMissing_of_perm {ts us : List (Translation α)} (hperm : ts.Perm us)
    (hvalue : entry.value.span = entry'.value.span) (required : List String) :
    reported (reportMissing entry key required (ts.map (·.language))) s =
      reported (reportMissing entry' key required (us.map (·.language))) s := by
  rw [reported_reportMissing, reported_reportMissing, hvalue]
  simp only [contains_languages_of_perm hperm]

theorem perm_reportExtra {ts us : List (Translation α)} (hperm : ts.Perm us) (known : List String) :
    (reported (reportExtra key known ts) s).Perm (reported (reportExtra key known us) s) := by
  rw [reported_reportExtra, reported_reportExtra]
  exact (hperm.filter _).map _

section phrase

variable {ts us : List (Translation String)} (hperm : ts.Perm us)

include hperm

/-- A phrase does not depend on the order of its translations, and not on the declared languages. -/
theorem returned_phraseOf_of_perm (hnodup : (ts.map (·.language)).Nodup)
    (hname : entry.name = entry'.name) :
    returned (phraseOf entry metadata ts key) s = returned (phraseOf entry' other us key) s := by
  have hforeign : (foreignTranslations ts).Perm (foreignTranslations us) := hperm.filter _
  have hkeys : ((ts.map fun t => (t.language, t.value)).map (·.1)).Nodup := by rwa [List.map_map]
  have htexts : phraseTexts entry.name ts = phraseTexts entry.name us := by
    rw [phraseTexts, Translations.ofList_eq_of_perm hkeys (hperm.map _), ← phraseTexts]
  rw [(phraseOf_parts ..).1, (phraseOf_parts ..).1, ← hname, hforeign.all_eq, htexts]

theorem perm_phraseOf (hname : entry.name = entry'.name)
    (hvalue : entry.value.span = entry'.value.span) :
    (reported (phraseOf entry metadata ts key) s).Perm
      (reported (phraseOf entry' metadata us key) s) := by
  have hforeign : (foreignTranslations ts).Perm (foreignTranslations us) := hperm.filter _
  rw [(phraseOf_parts ..).2, (phraseOf_parts ..).2,
    reported_reportMissing_of_perm hperm hvalue, ← hname]
  exact .append_left _ ((perm_reportExtra hforeign _).append (hforeign.flatMap_right _))

end phrase

section noun

variable {ts us : List (Translation (List String))} (hperm : ts.Perm us)

include hperm

/-- A noun does not depend on the order of its translations, and not on the declared languages. -/
theorem returned_someNounOf_of_perm (hnodup : (ts.map (·.language)).Nodup) :
    returned (someNounOf entry metadata ts key) s =
      returned (someNounOf entry' other us key) s := by
  have hforms : (formsOf ts).Perm (formsOf us) := hperm.filterMap _
  have hkeys (part : String × String → String) :
      (((formsOf ts).map fun f => (f.1, part f.2)).map (·.1)).Nodup := by
    rw [List.map_map]
    exact (sublist_formsOf ts).nodup hnodup
  rw [(someNounOf_parts ..).1, (someNounOf_parts ..).1, (nounOf_parts ..).1, (nounOf_parts ..).1,
    Translations.ofList_eq_of_perm (hkeys Prod.fst) (hforms.map _),
    Translations.ofList_eq_of_perm (hkeys Prod.snd) (hforms.map _)]

theorem perm_someNounOf (hvalue : entry.value.span = entry'.value.span) :
    (reported (someNounOf entry metadata ts key) s).Perm
      (reported (someNounOf entry' metadata us key) s) := by
  have hincomplete : (incompleteTranslations ts).Perm (incompleteTranslations us) := hperm.filter _
  rw [(someNounOf_parts ..).2, (someNounOf_parts ..).2, (nounOf_parts ..).2, (nounOf_parts ..).2,
    reported_reportMissing_of_perm hperm hvalue]
  exact .append_left _ ((perm_reportExtra hperm _).append (hincomplete.map _))

end noun

end translations

/-! ## the order of members -/

/-- An entry has these members, which are for different languages, so that none is marked as
repeated. -/
structure Member.Distinct (entry : Property) (members : List Property) : Prop where
  value : entry.value = .object entry.value.span members
  languages : (members.map Member.language).Nodup
  unmarked : ∀ p ∈ members, p.repeated = false

/-- Members for different languages are all the first with their names. -/
theorem Member.firstProperties_of_languages {entry : Property} {place : Span}
    {members : List Property} (hvalue : entry.value = .object place members)
    (hlanguages : (members.map Member.language).Nodup) : entry.firstProperties = members := by
  have hnames : (members.map (·.name)).Nodup := by
    refine List.Nodup.of_map Language.normalize ?_
    rwa [List.map_map]
  rw [Member.firstProperties, hvalue]
  exact distinctOn_eq_self hnames

namespace Member.Distinct

variable {entry : Property} {members order : List Property} {read : Node → Option α}
  (h : entry.Distinct members)

include h

theorem firstProperties : entry.firstProperties = members :=
  firstProperties_of_languages h.value h.languages

theorem properties : entry.value.properties = members := by
  rw [h.value]
  exact List.filter_eq_self.2 fun p hp => by simp [h.unmarked p hp]

theorem properties_eq : entry.value.properties = entry.firstProperties :=
  h.properties.trans h.firstProperties.symm

theorem hasShape_iff : entry.HasShape read ↔ ∀ p ∈ members, (read p.value).isSome = true := by
  rw [Member.HasShape, h.firstProperties, h.value]
  exact and_iff_right rfl

theorem translationsOf_eq :
    translationsOf read entry = members.filterMap (readTranslation? read) := by
  have hsublist : ((members.filterMap (readTranslation? read)).map (·.language)).Sublist
      (members.map Member.language) := by
    refine sublist_map_filterMap (fun p t ht => ?_) members
    obtain ⟨_, _, rfl⟩ := Option.map_eq_some_iff.1 ht
    rfl
  rw [translationsOf, h.properties, distinctOn_eq_self (hsublist.nodup h.languages)]

/-- The members of an entry can be put into another order. -/
theorem arranged (hperm : members.Perm order) : (entry.arranged order).Distinct order where
  value := rfl
  languages := (hperm.map _).nodup_iff.1 h.languages
  unmarked p hp := h.unmarked p (hperm.mem_iff.2 hp)

/-- With a value of a wrong kind, an entry is given up with one report. -/
theorem readEntry_of_wrongKind (expected : String)
    (next : List (Translation α) → String → Check (Option β))
    (hnot : ¬ ∀ p ∈ members, (read p.value).isSome = true) (s : Sink) :
    returned (readEntry expected read entry next) s = none ∧
      ∃ d, d.code = .jsonException ∧ reported (readEntry expected read entry next) s = [d] := by
  obtain ⟨_, problem, hrefused⟩ :=
    Member.exists_refused expected fun hhas : entry.HasShape read => hnot (h.hasShape_iff.1 hhas)
  obtain ⟨hret, hrep⟩ := readEntry_of_refused next h.properties_eq hrefused s
  exact ⟨hret, _, hrefused.code, hrep⟩

end Member.Distinct

section members

variable {entry : Property} {members order : List Property} {expected : String}
  {read : Node → Option α} {s : Sink}

/-- The translations of an entry with its members in another order are the same in another order. -/
theorem perm_translationsOf (h : entry.Distinct members) (hperm : members.Perm order) :
    (translationsOf read entry).Perm (translationsOf read (entry.arranged order)) := by
  rw [h.translationsOf_eq, (h.arranged hperm).translationsOf_eq]
  exact hperm.filterMap _

/-- The key of an entry does not depend on its value. -/
theorem withKey_arranged {next next' : String → Check (Option β)}
    (hnext : ∀ key, Additive (next key)) (hnext' : ∀ key, Additive (next' key)) (s : Sink) :
    ((∀ key, returned (next key) s = returned (next' key) s) →
      returned (withKey entry next) s = returned (withKey (entry.arranged order) next') s) ∧
    ((∀ key, (reported (next key) s).Perm (reported (next' key) s)) →
      (reported (withKey entry next) s).Perm
        (reported (withKey (entry.arranged order) next') s)) := by
  have hsame : withKey (entry.arranged order) next' = withKey entry next' := rfl
  rw [hsame]
  obtain ⟨error, hid, hnone, hone⟩ | ⟨identifier, hid, hresult, hreports⟩ :=
    withKey_cases hnext entry s <;>
    obtain ⟨error', hid', hnone', hone'⟩ | ⟨identifier', hid', hresult', hreports'⟩ :=
      withKey_cases hnext' entry s <;>
    cases hid.symm.trans hid'
  · rw [hnone, hone, hnone', hone']
    exact ⟨fun _ => rfl, fun _ => .refl _⟩
  · rw [hresult, hreports, hresult', hreports']
    exact ⟨fun h => h _, fun h => (h _).append_left _⟩

variable {next : Property → Metadata → List (Translation α) → String → Check (Option β)}

/-- A check that reads an entry does not care for the order of its members if what it does with the
translations does not depend on their order. -/
theorem indifferent_readEntry (h : entry.Distinct members) (hperm : members.Perm order)
    (hnext : ∀ entry metadata ts key, Additive (next entry metadata ts key))
    (hresult : ∀ metadata other ts us key, List.Perm ts us → (ts.map (·.language)).Nodup →
      returned (next entry metadata ts key) s =
        returned (next (entry.arranged order) other us key) s)
    (hreports : ∀ metadata ts us key, List.Perm ts us →
      (reported (next entry metadata ts key) s).Perm
        (reported (next (entry.arranged order) metadata us key) s)) :
    Indifferent (fun entry metadata => readEntry expected read entry (next entry metadata))
      read members entry (entry.arranged order) s := by
  have harranged := h.arranged hperm
  have hts : (translationsOf read entry).Perm (translationsOf read (entry.arranged order)) :=
    perm_translationsOf h hperm
  have hkinds : (∀ p ∈ order, (read p.value).isSome = true) ↔
      ∀ p ∈ members, (read p.value).isSome = true := by
    simp only [hperm.mem_iff]
  constructor
  case result =>
    intro metadata other
    by_cases hall : ∀ p ∈ members, (read p.value).isSome = true
    · have hret := readEntry_of_hasShape (next entry metadata) h.properties_eq expected
        (h.hasShape_iff.2 hall) s
      have hret' := readEntry_of_hasShape (next (entry.arranged order) other)
        harranged.properties_eq expected (harranged.hasShape_iff.2 (hkinds.2 hall)) s
      rw [hret.1, hret'.1]
      exact (withKey_arranged (hnext _ _ _) (hnext _ _ _) s).1
        fun key => hresult _ _ _ _ key hts (nodup_languages read entry)
    · rw [(h.readEntry_of_wrongKind expected _ hall s).1,
        (harranged.readEntry_of_wrongKind expected _ (mt hkinds.1 hall) s).1]
  case reports =>
    intro hall metadata
    have hrep := readEntry_of_hasShape (next entry metadata) h.properties_eq expected
      (h.hasShape_iff.2 hall) s
    have hrep' := readEntry_of_hasShape (next (entry.arranged order) metadata)
      harranged.properties_eq expected (harranged.hasShape_iff.2 (hkinds.2 hall)) s
    rw [hrep.2, hrep'.2]
    exact (withKey_arranged (hnext _ _ _) (hnext _ _ _) s).2 fun key => hreports _ _ _ key hts
  case refusal =>
    rintro ⟨p, hp, hnone⟩ metadata other
    have hnot : ¬ ∀ p ∈ members, (read p.value).isSome = true := fun hall => by
      simpa [hnone] using hall p hp
    exact ⟨(h.readEntry_of_wrongKind expected _ hnot s).2,
      (harranged.readEntry_of_wrongKind expected _ (mt hkinds.1 hnot) s).2⟩

end members

section report

variable {text : String} {root : Node} {span place : Span} {ms members order : List Property}
  {entry : Property}

/-- In a document, members for different languages are not marked. -/
theorem distinct_of_readDocument (h : readDocument text = .ok root)
    (hobject : root.Contains (.object span ms)) (hentry : entry ∈ ms)
    (hvalue : entry.value = .object place members)
    (hlanguages : (members.map Member.language).Nodup) : entry.Distinct members := by
  have hproperties : entry.value.properties = members :=
    (Member.properties_eq h hobject hentry).trans
      (Member.firstProperties_of_languages hvalue hlanguages)
  rw [hvalue] at hproperties
  have hplace : entry.value.span = place := by rw [hvalue]; rfl
  constructor
  case value => rw [hplace, hvalue]
  case languages => exact hlanguages
  case unmarked => exact fun p hp => by simpa using List.filter_eq_self.1 hproperties p hp

/-- **The order of translations does not matter**: where the members of an entry are for different
languages, every order of them gives the same phrase, or the same noun, whatever languages are
declared.  With the same metadata the reports are the same as well, in another order; and a value of
a wrong kind is the one thing that is reported in either order. -/
theorem order_of_translations_irrelevant (h : readDocument text = .ok root)
    (hobject : root.Contains (.object span ms)) (hentry : entry ∈ ms)
    (hvalue : entry.value = .object place members)
    (hlanguages : (members.map Member.language).Nodup) (hperm : members.Perm order) (s : Sink) :
    Indifferent validatePhrase Node.text? members entry (entry.arranged order) s ∧
      Indifferent validateNoun texts? members entry (entry.arranged order) s := by
  have hdistinct := distinct_of_readDocument h hobject hentry hvalue hlanguages
  constructor
  · have hphrase : validatePhrase = fun entry metadata =>
        readEntry "a string" Node.text? entry (phraseOf entry metadata) := by
      funext entry metadata
      exact validatePhrase_eq_readEntry entry metadata
    rw [hphrase]
    exact indifferent_readEntry hdistinct hperm additive_phraseOf
      (fun _ _ _ _ _ hts hnodup => returned_phraseOf_of_perm hts hnodup rfl)
      fun _ _ _ _ hts => perm_phraseOf hts rfl rfl
  · have hnoun : validateNoun = fun entry metadata =>
        readEntry "an array of strings" texts? entry (someNounOf entry metadata) := by
      funext entry metadata
      exact validateNoun_eq_readEntry entry metadata
    rw [hnoun]
    exact indifferent_readEntry hdistinct hperm additive_someNounOf
      (fun _ _ _ _ _ hts hnodup => returned_someNounOf_of_perm hts hnodup)
      fun _ _ _ _ hts => perm_someNounOf hts rfl

end report

/-- A phrase in three languages. -/
def greetingText : String :=
  "\x7bphrases:\x7b'Hi \x7ba\x7d':" ++
    "\x7bde:'Hallo \x7ba\x7d',FR:'Salut',nl:'Hoi \x7ba\x7d'\x7d\x7d\x7d"

/-- The translations of the phrase of `greetingText`. -/
def greetingMembers : List Property :=
  [⟨"de", ⟨20, 2⟩, .string ⟨23, 11⟩ "Hallo \x7ba\x7d", false⟩,
    ⟨"FR", ⟨35, 2⟩, .string ⟨38, 7⟩ "Salut", false⟩,
    ⟨"nl", ⟨46, 2⟩, .string ⟨49, 9⟩ "Hoi \x7ba\x7d", false⟩]

/-- The phrase of `greetingText`. -/
def greetingEntry : Property := ⟨"Hi \x7ba\x7d", ⟨10, 8⟩, .object ⟨19, 40⟩ greetingMembers, false⟩

/-- What `greetingText` is read as. -/
def greetingRoot : Node :=
  .object ⟨0, 61⟩ [⟨"phrases", ⟨1, 7⟩, .object ⟨9, 51⟩ [greetingEntry], false⟩]

theorem order_of_translations_irrelevant_greetingText :
    readDocument greetingText = .ok greetingRoot ∧
      Indifferent validatePhrase Node.text? greetingMembers greetingEntry
        (greetingEntry.arranged greetingMembers.reverse) (Sink.ofString greetingText "book") ∧
      Indifferent validateNoun texts? greetingMembers greetingEntry
        (greetingEntry.arranged greetingMembers.reverse) (Sink.ofString greetingText "book") := by
  have hroot : readDocument greetingText = .ok greetingRoot := by
    set_option maxRecDepth 4000 in with_unfolding_all rfl
  have hcontains : greetingRoot.Contains (.object ⟨9, 51⟩ [greetingEntry]) :=
    .member (List.mem_singleton.2 rfl) (.self _)
  have hlanguages : greetingMembers.map Member.language = ["de", "fr", "nl"] := by
    with_unfolding_all rfl
  have hnodup : (greetingMembers.map Member.language).Nodup := by
    rw [hlanguages]
    decide
  exact ⟨hroot, order_of_translations_irrelevant hroot hcontains (List.mem_singleton.2 rfl)
    rfl hnodup greetingMembers.reverse_perm.symm (Sink.ofString greetingText "book")⟩

end Phrasebook
