import Phrasebook.Proofs.Completeness
import Phrasebook.Proofs.EntryReading
import Phrasebook.Proofs.Stages

/-!
# Phrasebook.Proofs.NounAccount

What becomes of the languages of a noun.

The check goes over three lists: the required languages that are missing, the translations that
nobody asked for, and the translations that lack a form.  Here they are read the other way, language
by language:

1. what is reported about one language (`telling_missingTranslation`, `telling_of_filter`), and what
   the noun gives for it (`get?_ofList_formsOf`);
2. a language is given, missing or incomplete, as the first property for it decides, and nothing
   points to another fate (`Fate.Settled`).
-/

namespace Phrasebook

open Pattern

/-! ## fates -/

/-- The diagnostics that tell a problem, wherever they point. -/
def telling (problem : Problem) (ds : List Diagnostic) : List Diagnostic :=
  (ofKind problem.code ds).filter (·.message = problem.message)

/-- What can become of a language of a noun. -/
inductive Fate where
  | given
  | missing
  | incomplete

namespace Fate

variable (entry : Property) (s : Sink) (noun : Noun) (reports : List Diagnostic) (language : String)

/-- Something in a noun, or in what is reported about it, points to a fate. -/
def Shows : Fate → Prop
  | given => (noun.singular.get? language).isSome = true ∨ (noun.plural.get? language).isSome = true
  | missing => telling (.missingTranslation noun.key language) reports ≠ []
  | incomplete => telling (.nounIsIncomplete noun.key language) reports ≠ []

/-- How a fate follows from the first property for a language, and what comes of it: both forms, or
one diagnostic in its place. -/
inductive Follows : Fate → Prop where
  | given {p : Property} {singular plural : String} {more : List String} :
      entry.property? language = some p → texts? p.value = some (singular :: plural :: more) →
      noun.singular.get? language = some singular → noun.plural.get? language = some plural →
      Follows .given
  | missing :
      entry.property? language = none →
      telling (.missingTranslation noun.key language) reports =
        [s.locate entry.value.span (.missingTranslation noun.key language)] →
      Follows .missing
  | incomplete {p : Property} {forms : List String} :
      entry.property? language = some p → texts? p.value = some forms → forms.length < 2 →
      telling (.nounIsIncomplete noun.key language) reports =
        [s.locate p.value.span (.nounIsIncomplete noun.key language)] →
      Follows .incomplete

/-- A language has a fate, and nothing points to another one. -/
structure Settled (fate : Fate) : Prop where
  follows : fate.Follows entry s noun reports language
  only : ∀ other : Fate, other.Shows noun reports language → other = fate

end Fate

/-- A noun and what is reported about it account for every language. -/
structure Noun.Accounts (noun : Noun) (entry : Property) (metadata : Metadata) (s : Sink)
    (reports : List Diagnostic) : Prop where
  /-- English and the declared languages have one fate each. -/
  required : ∀ language, language = Language.english ∨ language ∈ metadata.languages →
    telling (.extraTranslation noun.key language) reports = [] ∧
      ∃ fate : Fate, fate.Settled entry s noun reports language
  /-- So have the other languages of the entry, which are reported for being there. -/
  extra : ∀ language p, ¬ (language = Language.english ∨ language ∈ metadata.languages) →
    entry.property? language = some p →
    telling (.extraTranslation noun.key language) reports =
        [s.locate p.value.span (.extraTranslation noun.key language)] ∧
      ∃ fate : Fate, fate ≠ .missing ∧ fate.Settled entry s noun reports language
  /-- A language that the entry does not have is not in the noun. -/
  absent : ∀ language, entry.property? language = none →
    noun.singular.get? language = none ∧ noun.plural.get? language = none
  /-- Missing languages come in the order of the declarations, and English comes last if it is not
  declared. -/
  order : ofKind .missingTranslation reports =
    ((distinct (metadata.languages ++ [Language.english])).filter fun language =>
      (entry.property? language).isNone).map fun language =>
        s.locate entry.value.span (.missingTranslation noun.key language)

/-! ## what is reported about one language -/

section telling

variable {s : Sink} {ds : List Diagnostic} {key language other : String}

theorem between_inj {before text other after : String} :
    before ++ text ++ after = before ++ other ++ after ↔ text = other := by
  rw [String.append_left_inj, String.append_right_inj]

/-- Messages about different languages are different. -/
theorem message_missingTranslation_inj :
    (Problem.missingTranslation key language).message =
        (Problem.missingTranslation key other).message ↔
      language = other := between_inj

theorem message_extraTranslation_inj :
    (Problem.extraTranslation key language).message = (Problem.extraTranslation key other).message ↔
      language = other := between_inj

theorem message_nounIsIncomplete_inj :
    (Problem.nounIsIncomplete key language).message = (Problem.nounIsIncomplete key other).message ↔
      language = other := between_inj

/-- Of the diagnostics of a kind, those that tell a problem are found by their messages. -/
theorem telling_of_map {α : Type} {items : List α} {place : α → Span} {problem : α → Problem}
    (told : Problem) (p : α → Bool)
    (h : ofKind told.code ds = items.map fun x => s.locate (place x) (problem x))
    (hmessage : ∀ x, (problem x).message = told.message ↔ p x = true) :
    telling told ds = (items.filter p).map fun x => s.locate (place x) (problem x) := by
  rw [telling, h, List.filter_map]
  congr 1
  refine List.filter_congr fun x _ => ?_
  rw [Bool.eq_iff_iff, ← hmessage, Function.comp_apply, decide_eq_true_iff]
  rfl

/-- What is told about one of the translations that are reported. -/
theorem telling_of_filter {ts : List (Translation (List String))}
    (hts : (ts.map (·.language)).Nodup) {problem : String → Problem}
    (p : Translation (List String) → Bool)
    (h : ofKind (problem language).code ds =
      (ts.filter p).map fun t => s.locate t.node.span (problem t.language))
    (hmessage : ∀ l, (problem l).message = (problem language).message ↔ l = language) :
    telling (problem language) ds =
      ((ts.find? (·.language == language)).toList.filter p).map fun t =>
        s.locate t.node.span (problem t.language) := by
  have htelling := telling_of_map (problem language) (·.language == language) h
    fun t => (hmessage t.language).trans beq_iff_eq.symm
  rw [htelling, List.filter_comm, filter_key_eq hts]

end telling

/-! ## what the check of a noun reports and returns -/

section noun

variable {entry : Property} {metadata : Metadata} {ts : List (Translation (List String))}
  {identifier : Identifier} {s : Sink} {language : String}

/-- What is reported for a noun with a key. -/
def reportsOfNoun (entry : Property) (metadata : Metadata) (identifier : Identifier)
    (ts : List (Translation (List String))) (s : Sink) : List Diagnostic :=
  digitReports entry identifier s ++ reported (nounOf entry metadata ts identifier.text) s

/-- The noun of a key and its translations. -/
def nounFrom (identifier : Identifier) (ts : List (Translation (List String))) : Noun :=
  ⟨identifier.text, .ofList ((formsOf ts).map fun f => (f.1, f.2.1)),
    .ofList ((formsOf ts).map fun f => (f.1, f.2.2))⟩

@[simp] theorem key_nounFrom : (nounFrom identifier ts).key = identifier.text := rfl

/-- The required languages that a noun lacks, each once. -/
def absentLanguages (metadata : Metadata) (ts : List (Translation (List String))) : List String :=
  distinct ((nounLanguages metadata).filter fun l => !(ts.map (·.language)).contains l)

theorem mem_absentLanguages : language ∈ absentLanguages metadata ts ↔
    (language = Language.english ∨ language ∈ metadata.languages) ∧
    language ∉ ts.map (·.language) := by
  rw [absentLanguages, mem_distinct, List.mem_filter, mem_nounLanguages]
  simp

section kinds

variable (entry : Property) (metadata : Metadata) (identifier : Identifier)
  (ts : List (Translation (List String))) (s : Sink)

theorem codes_incompleteTranslations : codes ((incompleteTranslations ts).map fun t =>
    s.locate t.node.span (.nounIsIncomplete identifier.text t.language)) ∈
      (many .nounIsIncomplete).matches' :=
  codes_map_mem_many fun _ => rfl

theorem ofKind_missingTranslation :
    ofKind .missingTranslation (reportsOfNoun entry metadata identifier ts s) =
      (absentLanguages metadata ts).map fun l =>
        s.locate entry.value.span (.missingTranslation identifier.text l) := by
  rw [reportsOfNoun, (nounOf_parts ..).2, ofKind_append, ofKind_append, ofKind_append,
    ofKind_eq_nil (codes_digitReports ..) (by decide),
    ofKind_eq_nil (codes_reportExtra ..) (by decide),
    ofKind_eq_nil (codes_incompleteTranslations ..) (by decide), reported_reportMissing]
  simp only [List.nil_append, List.append_nil]
  exact ofKind_map fun _ => rfl

theorem ofKind_extraTranslation :
    ofKind .extraTranslation (reportsOfNoun entry metadata identifier ts s) =
      (ts.filter fun t => !(nounLanguages metadata).contains t.language).map fun t =>
        s.locate t.node.span (.extraTranslation identifier.text t.language) := by
  rw [reportsOfNoun, (nounOf_parts ..).2, ofKind_append, ofKind_append, ofKind_append,
    ofKind_eq_nil (codes_digitReports ..) (by decide),
    ofKind_eq_nil (codes_reportMissing ..) (by decide),
    ofKind_eq_nil (codes_incompleteTranslations ..) (by decide), reported_reportExtra]
  simp only [List.nil_append, List.append_nil]
  exact ofKind_map fun _ => rfl

theorem ofKind_nounIsIncomplete :
    ofKind .nounIsIncomplete (reportsOfNoun entry metadata identifier ts s) =
      (incompleteTranslations ts).map fun t =>
        s.locate t.node.span (.nounIsIncomplete identifier.text t.language) := by
  rw [reportsOfNoun, (nounOf_parts ..).2, ofKind_append, ofKind_append, ofKind_append,
    ofKind_eq_nil (codes_digitReports ..) (by decide),
    ofKind_eq_nil (codes_reportMissing ..) (by decide),
    ofKind_eq_nil (codes_reportExtra ..) (by decide)]
  simp only [List.nil_append]
  exact ofKind_map fun _ => rfl

end kinds

/-! ### language by language -/

theorem forms?_eq_some_iff {t : Translation (List String)} {f : String × String} :
    forms? t = some f ↔ ∃ more, t.value = f.1 :: f.2 :: more := by
  obtain ⟨_, _, _ | ⟨singular, _ | ⟨plural, more⟩⟩⟩ := t <;> simp [forms?, Prod.ext_iff]

theorem forms?_eq_none_iff {t : Translation (List String)} :
    forms? t = none ↔ t.value.length < 2 := by
  obtain ⟨_, _, _ | ⟨singular, _ | ⟨plural, more⟩⟩⟩ := t <;> simp [forms?]

section languages

variable (hnodup : (ts.map (·.language)).Nodup)

/-- A language is reported as missing once if it is required and has no translation. -/
theorem telling_missingTranslation :
    telling (.missingTranslation identifier.text language)
        (reportsOfNoun entry metadata identifier ts s) =
      if language ∈ absentLanguages metadata ts then
        [s.locate entry.value.span (.missingTranslation identifier.text language)]
      else [] := by
  have htelling := telling_of_map (.missingTranslation identifier.text language) (· == language)
    (ofKind_missingTranslation entry metadata identifier ts s)
    fun l => message_missingTranslation_inj.trans beq_iff_eq.symm
  have hcount : (absentLanguages metadata ts).filter (· == language) =
      if language ∈ absentLanguages metadata ts then [language] else [] := by
    have hnodup : (absentLanguages metadata ts).Nodup := nodup_distinct _
    rw [List.filter_beq, hnodup.count]
    split <;> rfl
  rw [htelling, hcount]
  split <;> rfl

include hnodup

/-- The forms of a noun for a language are those of its translation. -/
theorem get?_ofList_formsOf (part : String × String → String) :
    (Translations.ofList ((formsOf ts).map fun f => (f.1, part f.2))).get? language =
      ((ts.find? (·.language == language)).bind forms?).map part := by
  have hkeys : (((formsOf ts).map fun f => (f.1, part f.2)).map (·.1)).Nodup := by
    have hsublist : ((formsOf ts).map (·.1)).Sublist (ts.map (·.language)) := sublist_formsOf ts
    rw [List.map_map]
    exact hsublist.nodup hnodup
  have hmem (text : String) : (language, text) ∈ (formsOf ts).map (fun f => (f.1, part f.2)) ↔
      ∃ t ∈ ts, t.language = language ∧ (forms? t).map part = some text := by
    simp only [formsOf, List.mem_map, List.mem_filterMap, Option.map_eq_some_iff]
    constructor
    · rintro ⟨_, ⟨t, ht, f, hf, rfl⟩, heq⟩
      obtain ⟨rfl, rfl⟩ := Prod.mk.inj heq
      exact ⟨t, ht, rfl, f, hf, rfl⟩
    · rintro ⟨t, ht, rfl, f, hf, rfl⟩
      exact ⟨_, ⟨t, ht, f, hf, rfl⟩, rfl⟩
  refine Option.ext fun text => ?_
  rw [Translations.get?_ofList_eq_some_iff _ _ _ hkeys, hmem]
  cases hfind : ts.find? (·.language == language) with
  | none =>
      have hnone : ∀ t ∈ ts, t.language ≠ language := by simpa using hfind
      simp only [Option.bind_none, Option.map_none, reduceCtorEq, iff_false]
      rintro ⟨t, ht, hlanguage, -⟩
      exact hnone t ht hlanguage
  | some t =>
      obtain ⟨ht, rfl⟩ := (find?_key_eq_some_iff hnodup).1 hfind
      simp only [Option.bind_some]
      constructor
      · rintro ⟨u, hu, hlanguage, hpart⟩
        rwa [← List.inj_on_of_nodup_map hnodup hu ht hlanguage]
      · intro hpart
        exact ⟨t, ht, rfl, hpart⟩

/-- A noun has no language without a translation. -/
theorem get?_nounFrom_of_absent (identifier : Identifier)
    (hfind : ts.find? (·.language == language) = none) :
    (nounFrom identifier ts).singular.get? language = none ∧
      (nounFrom identifier ts).plural.get? language = none := by
  have hsingular : (nounFrom identifier ts).singular.get? language = _ :=
    get?_ofList_formsOf hnodup Prod.fst
  have hplural : (nounFrom identifier ts).plural.get? language = _ :=
    get?_ofList_formsOf hnodup Prod.snd
  rw [hsingular, hplural, hfind]
  exact ⟨rfl, rfl⟩

/-- A language with a translation is given or incomplete. -/
theorem settled_of_gives {p : Property} {t : Translation (List String)}
    (hp : entry.property? language = some p) (hfind : ts.find? (·.language == language) = some t)
    (hgives : Member.Gives texts? p t) :
    ∃ fate : Fate, fate ≠ .missing ∧
      fate.Settled entry s (nounFrom identifier ts) (reportsOfNoun entry metadata identifier ts s)
        language := by
  obtain ⟨ht, rfl⟩ := (find?_key_eq_some_iff hnodup).1 hfind
  have hmissing : telling (.missingTranslation identifier.text t.language)
      (reportsOfNoun entry metadata identifier ts s) = [] := by
    rw [telling_missingTranslation, if_neg]
    exact fun habsent => (mem_absentLanguages.1 habsent).2 (List.mem_map_of_mem ht)
  have hincomplete : telling (.nounIsIncomplete identifier.text t.language)
      (reportsOfNoun entry metadata identifier ts s) = _ :=
    telling_of_filter hnodup _ (ofKind_nounIsIncomplete entry metadata identifier ts s)
      fun _ => message_nounIsIncomplete_inj
  have hsingular : (nounFrom identifier ts).singular.get? t.language = _ :=
    get?_ofList_formsOf hnodup Prod.fst
  have hplural : (nounFrom identifier ts).plural.get? t.language = _ :=
    get?_ofList_formsOf hnodup Prod.snd
  rw [hfind] at hincomplete hsingular hplural
  cases hforms : forms? t with
  | none =>
      refine ⟨.incomplete, by simp, .incomplete hp hgives.value (forms?_eq_none_iff.1 hforms) ?_,
        ?_⟩
      · simpa [hforms, hgives.node] using hincomplete
      · rintro (_ | _ | _) hshows
        · simp [Fate.Shows, hsingular, hplural, hforms] at hshows
        · exact absurd hmissing hshows
        · rfl
  | some f =>
      obtain ⟨more, hvalue⟩ := forms?_eq_some_iff.1 hforms
      refine ⟨.given, by simp, .given hp (hvalue ▸ hgives.value) ?_ ?_, ?_⟩
      · simpa [hforms] using hsingular
      · simpa [hforms] using hplural
      · rintro (_ | _ | _) hshows
        · rfl
        · exact absurd hmissing hshows
        · simp [Fate.Shows, hincomplete, hforms] at hshows

/-- A required language without a translation is missing. -/
theorem settled_of_absent (hp : entry.property? language = none)
    (hfind : ts.find? (·.language == language) = none)
    (hrequired : language = Language.english ∨ language ∈ metadata.languages) :
    Fate.missing.Settled entry s (nounFrom identifier ts)
      (reportsOfNoun entry metadata identifier ts s) language := by
  have habsent : language ∈ absentLanguages metadata ts := by
    refine mem_absentLanguages.2 ⟨hrequired, ?_⟩
    simpa using hfind
  have hmissing : telling (.missingTranslation identifier.text language)
      (reportsOfNoun entry metadata identifier ts s) =
        [s.locate entry.value.span (.missingTranslation identifier.text language)] := by
    rw [telling_missingTranslation, if_pos habsent]
  have hincomplete : telling (.nounIsIncomplete identifier.text language)
      (reportsOfNoun entry metadata identifier ts s) = _ :=
    telling_of_filter hnodup _ (ofKind_nounIsIncomplete entry metadata identifier ts s)
      fun _ => message_nounIsIncomplete_inj
  obtain ⟨hsingular, hplural⟩ := get?_nounFrom_of_absent hnodup identifier hfind
  refine ⟨.missing hp hmissing, ?_⟩
  rintro (_ | _ | _) hshows
  · simp [Fate.Shows, hsingular, hplural] at hshows
  · rfl
  · simp [Fate.Shows, hincomplete, hfind] at hshows

end languages

end noun

/-! ## the account -/

section account

variable {entry : Property} {metadata : Metadata} {identifier : Identifier} {s : Sink}
  (hproperties : entry.value.properties = entry.firstProperties) (hshape : entry.HasShape texts?)

include hproperties hshape

/-- The missing languages are those that no property gives. -/
theorem absentLanguages_eq : absentLanguages metadata (translationsOf texts? entry) =
    (distinct (metadata.languages ++ [Language.english])).filter fun l =>
      (entry.property? l).isNone := by
  have hrequired :
      distinct (nounLanguages metadata) = distinct (metadata.languages ++ [Language.english]) := by
    unfold nounLanguages Metadata.supports
    split
    next henglish =>
      have hany : metadata.languages.any (id · == id Language.english) = true := by
        simpa using henglish
      rw [distinct, distinct, distinctOn_concat, if_pos hany, List.append_nil]
    next => rfl
  rw [absentLanguages, distinct_filter, hrequired]
  refine List.filter_congr fun l _ => ?_
  obtain ⟨hp, ht⟩ | ⟨p, t, hp, ht, -⟩ := property?_cases hproperties hshape l
  · have hnone : l ∉ (translationsOf texts? entry).map (·.language) := by simpa using ht
    simp only [hp, List.contains_eq_mem, hnone, decide_false, Bool.not_false, Option.isNone_none]
  · have hlanguage : t.language = l := by simpa using List.find?_some ht
    have hsome : l ∈ (translationsOf texts? entry).map (·.language) :=
      List.mem_map.2 ⟨t, List.mem_of_find?_eq_some ht, hlanguage⟩
    simp only [hp, List.contains_eq_mem, hsome, decide_true, Bool.not_true, Option.isNone_some]

/-- The noun of an entry and its reports account for every language. -/
theorem accounts_nounFrom :
    (nounFrom identifier (translationsOf texts? entry)).Accounts entry metadata s
      (reportsOfNoun entry metadata identifier (translationsOf texts? entry) s) := by
  have hnodup := nodup_languages texts? entry
  have hextra (language : String) : telling (.extraTranslation identifier.text language)
      (reportsOfNoun entry metadata identifier (translationsOf texts? entry) s) = _ :=
    telling_of_filter hnodup _ (ofKind_extraTranslation entry metadata identifier _ s)
      fun _ => message_extraTranslation_inj
  constructor
  case required =>
    intro language hrequired
    have hmem : language ∈ nounLanguages metadata := mem_nounLanguages.2 hrequired
    obtain ⟨hp, ht⟩ | ⟨p, t, hp, ht, hgives⟩ := property?_cases hproperties hshape language
    · refine ⟨?_, .missing, settled_of_absent hnodup hp ht hrequired⟩
      simp [hextra, ht]
    · obtain ⟨fate, -, hsettled⟩ := settled_of_gives hnodup hp ht hgives
      have hlanguage : t.language = language := by simpa using List.find?_some ht
      refine ⟨?_, fate, hsettled⟩
      simp [hextra, ht, hlanguage, hmem]
  case extra =>
    intro language p hnot hp
    have hmem : language ∉ nounLanguages metadata := fun hmem => hnot (mem_nounLanguages.1 hmem)
    obtain ⟨hnone, -⟩ | ⟨p', t, hp', ht, hgives⟩ := property?_cases hproperties hshape language
    · simp [hnone] at hp
    · obtain rfl : p' = p := by simpa [hp'] using hp
      have hlanguage : t.language = language := by simpa using List.find?_some ht
      refine ⟨?_, settled_of_gives hnodup hp' ht hgives⟩
      simp [hextra, ht, hlanguage, hmem, hgives.node]
  case absent =>
    intro language hp
    obtain ⟨-, ht⟩ | ⟨p, t, hp', -⟩ := property?_cases hproperties hshape language
    · exact get?_nounFrom_of_absent hnodup identifier ht
    · simp [hp] at hp'
  case order =>
    rw [ofKind_missingTranslation, absentLanguages_eq hproperties hshape]
    rfl

end account

section report

variable {text : String} {root : Node} {span : Span} {ms : List Property} {entry : Property}

/-- **Nouns account for every language**: an entry whose values are arrays of strings, and whose
name gives a key, becomes a noun that, with what is reported, accounts for every language.  An entry
of another shape becomes no noun, and this is all that is reported about it. -/
theorem nouns_account_for_languages (h : readDocument text = .ok root)
    (hobject : root.Contains (.object span ms)) (hentry : entry ∈ ms)
    (metadata : Metadata) (s : Sink) :
    (∀ identifier, entry.HasShape texts? → Identifier.ofSentence entry.name = .ok identifier →
      ∃ noun, returned (validateNoun entry metadata) s = some noun ∧ noun.key = identifier.text ∧
        noun.Accounts entry metadata s (reported (validateNoun entry metadata) s)) ∧
      (¬ entry.HasShape texts? → returned (validateNoun entry metadata) s = none ∧
        ∃ place problem, entry.Refused "an array of strings" texts? place problem ∧
          problem.code = .jsonException ∧
          reported (validateNoun entry metadata) s = [s.locate place problem]) := by
  have hproperties := Member.properties_eq h hobject hentry
  rw [validateNoun_eq_readEntry]
  constructor
  · intro identifier hshape hid
    obtain ⟨hret, hrep⟩ :=
      readEntry_of_hasShape (someNounOf entry metadata) hproperties "an array of strings" hshape s
    obtain ⟨error, herror, -⟩ | ⟨identifier', hid', hresult, hreports⟩ :=
      withKey_cases (additive_someNounOf entry metadata (translationsOf texts? entry)) entry s
    · simp [hid] at herror
    · obtain rfl : identifier' = identifier := by simpa [hid'] using hid
      rw [hret, hrep, hresult, hreports, (someNounOf_parts ..).1,
        (someNounOf_parts ..).2, (nounOf_parts ..).1]
      exact ⟨_, rfl, rfl, accounts_nounFrom hproperties hshape⟩
  · intro hshape
    obtain ⟨place, problem, hrefused⟩ := Member.exists_refused "an array of strings" hshape
    obtain ⟨hret, hrep⟩ := readEntry_of_refused (someNounOf entry metadata) hproperties hrefused s
    exact ⟨hret, place, problem, hrefused, hrefused.code, hrep⟩

end report

/-- A noun with languages of every fate, and with two names for one language. -/
def dogText : String :=
  "\x7bnouns:\x7bdog:\x7bde:['Hund','Hunde'],NL:['hond'],' De ':[]," ++
    "es:['perro','perros','p'],it:[]\x7d\x7d\x7d"

/-- The noun of `dogText`. -/
def dogEntry : Property :=
  ⟨"dog", ⟨8, 3⟩,
    .object ⟨12, 75⟩
      [⟨"de", ⟨13, 2⟩, .array ⟨16, 16⟩ [.string ⟨17, 6⟩ "Hund", .string ⟨24, 7⟩ "Hunde"], false⟩,
        ⟨"NL", ⟨33, 2⟩, .array ⟨36, 8⟩ [.string ⟨37, 6⟩ "hond"], false⟩,
        ⟨" De ", ⟨45, 6⟩, .array ⟨52, 2⟩ [], false⟩,
        ⟨"es", ⟨55, 2⟩,
          .array ⟨58, 22⟩ [.string ⟨59, 7⟩ "perro", .string ⟨67, 8⟩ "perros",
            .string ⟨76, 3⟩ "p"], false⟩,
        ⟨"it", ⟨81, 2⟩, .array ⟨84, 2⟩ [], false⟩], false⟩

/-- What `dogText` is read as. -/
def dogRoot : Node := .object ⟨0, 89⟩ [⟨"nouns", ⟨1, 5⟩, .object ⟨7, 81⟩ [dogEntry], false⟩]

/-- Metadata of a book without English, with a repeated language. -/
def dogMetadata : Metadata := ⟨["de", "nl", "fr", "de"], "1"⟩

theorem nouns_account_for_languages_dogText :
    readDocument dogText = .ok dogRoot ∧
      ∃ noun, returned (validateNoun dogEntry dogMetadata)
        (Sink.ofString dogText "book") = some noun ∧
        noun.key = "dog" ∧
        noun.Accounts dogEntry dogMetadata (Sink.ofString dogText "book")
          (reported (validateNoun dogEntry dogMetadata) (Sink.ofString dogText "book")) := by
  have hroot : readDocument dogText = .ok dogRoot := by
    set_option maxRecDepth 4000 in with_unfolding_all rfl
  have hcontains : dogRoot.Contains (.object ⟨7, 81⟩ [dogEntry]) :=
    .member (List.mem_singleton.2 rfl) (.self _)
  have hshape : dogEntry.HasShape texts? := by decide
  have hid : Identifier.ofSentence dogEntry.name = .ok ⟨"dog", false⟩ := by with_unfolding_all rfl
  obtain ⟨hkept, -⟩ :=
    nouns_account_for_languages hroot hcontains (List.mem_singleton.2 rfl) dogMetadata
      (Sink.ofString dogText "book")
  exact ⟨hroot, hkept _ hshape hid⟩

end Phrasebook
