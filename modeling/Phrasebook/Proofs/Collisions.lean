import Phrasebook.Proofs.Settings
import Phrasebook.Proofs.Stages

/-!
# Phrasebook.Proofs.Collisions

A noun whose key a phrase has is reported, once and at its entry, and stays in the book.

1. No other part of a check reports collisions: what is reported of this kind are the collisions of
   the entries of the nouns, in their order (`ofKind_nounReports`).
2. An entry has a collision just if it gives a noun and a phrase of the finished book has the key of
   the noun (`forall₂_collisions`).  The phrase is the first one with the key, and it has an English
   text.
-/

namespace Phrasebook

/-- The nouns of a document, each with the entry that gives it. -/
def nounsFrom (root : Node) (metadata : Metadata) (s : Sink) : List (Property × Noun) :=
  (sectionEntries root .nouns).filterMap fun entry =>
    (returned (validateNoun entry metadata) s).map (entry, ·)

/-- The nouns of a text, each with the entry that gives it; none if its metadata cannot be used. -/
def nounSources (text fileId : String) : List (Property × Noun) :=
  match readDocument text with
  | .error _ => []
  | .ok root =>
    match returned (validateMetadata root) (.ofString text fileId) with
    | none => []
    | some metadata => nounsFrom root metadata (.ofString text fileId)

/-- The diagnostic of a noun that collides with a phrase: it has the place of the name that gives
the noun, and it tells the key and the English text of the first phrase that has it. -/
def TellsCollision (s : Sink) (book : Book) (source : Property × Noun) (d : Diagnostic) : Prop :=
  ∃ phrase sentence, book.phrase? source.2.key = some phrase ∧
    phrase.translations.get? Language.english = some sentence ∧
    d = s.locate source.1.nameSpan (.phraseNounDuplicate source.2.key sentence)

/-! ## where collisions are reported -/

section reports

variable {options : Options} {root : Node} {metadata : Metadata} {phrases : List Phrase} {s : Sink}

theorem ofKind_validateNoun (entry : Property) (metadata : Metadata) (s : Sink) :
    ofKind .phraseNounDuplicate (reported (validateNoun entry metadata) s) = [] := by
  -- without looking for collisions, the block of an entry is what its validator reports
  have hcodes := codes_noun { checkPhraseNounCollisions := false } [] entry metadata s
  have hnone : nounCollisions { checkPhraseNounCollisions := false } [] entry s
      (returned (validateNoun entry metadata) s) = [] := by
    cases returned (validateNoun entry metadata) s <;> rfl
  rw [hnone, List.append_nil] at hcodes
  exact ofKind_eq_nil hcodes (by decide)

theorem ofKind_headReports (options : Options) (root : Node) (s : Sink) :
    ofKind .phraseNounDuplicate (headReports options root s) = [] := by
  have hrepetitions : ofKind .phraseNounDuplicate (repetitionReports options root s) = [] := by
    refine List.filter_eq_nil_iff.2 fun d hd => ?_
    obtain ⟨-, m, -, rfl⟩ := mem_repetitionReports.1 hd
    simp [Problem.code]
  have hmetadata : ofKind .phraseNounDuplicate (reported (validateMetadata root) s) = [] := by
    obtain ⟨-, -, hcodes⟩ | ⟨-, -, hcodes⟩ | ⟨-, -, hcodes⟩ := codes_validateMetadata root s
    · exact ofKind_eq_nil hcodes (by decide)
    · exact ofKind_eq_nil hcodes (by decide)
    · exact ofKind_eq_nil hcodes (by decide)
  rw [headReports, ofKind_append, hrepetitions, hmetadata, List.append_nil]

theorem ofKind_phraseReports (root : Node) (metadata : Metadata) (s : Sink) :
    ofKind .phraseNounDuplicate (phraseReports root metadata s) = [] :=
  ofKind_eq_nil (codes_phraseReports root metadata s) (by decide)

theorem ofKind_nounCollisions (entry : Property) (noun? : Option Noun) :
    ofKind .phraseNounDuplicate (nounCollisions options phrases entry s noun?) =
      nounCollisions options phrases entry s noun? := by
  refine ofKind_eq_self fun d hd => ?_
  obtain ⟨key, phrase, rfl⟩ := of_mem_nounCollisions hd
  rfl

/-- The collisions that the section of nouns reports are those of its entries. -/
theorem ofKind_nounReports (options : Options) (root : Node) (metadata : Metadata)
    (phrases : List Phrase) (s : Sink) :
    ofKind .phraseNounDuplicate (nounReports options root metadata phrases s) =
      (sectionEntries root .nouns).flatMap fun entry =>
        nounCollisions options phrases entry s (returned (validateNoun entry metadata) s) := by
  refine (filter_nounReports options root metadata phrases fun _ => rfl).trans
    (List.flatMap_congr fun entry _ => ?_)
  show ofKind _ (_ ++ _) = _
  rw [ofKind_append, ofKind_validateNoun, ofKind_nounCollisions, List.nil_append]

end reports

/-! ## entries that collide -/

/-- Where each item of a kind gives one result, and the others none, the results stand for the items
of the kind, in their order. -/
theorem forall₂_filter_flatMap {α β : Type} {R : α → β → Prop} {p : α → Bool} {f : α → List β}
    {items : List α} (hpos : ∀ a ∈ items, p a = true → ∃ b, f a = [b] ∧ R a b)
    (hneg : ∀ a ∈ items, p a = false → f a = []) :
    List.Forall₂ R (items.filter p) (items.flatMap f) := by
  induction items with
  | nil => exact .nil
  | cons a rest ih =>
      obtain ⟨hapos, hpos⟩ := List.forall_mem_cons.1 hpos
      obtain ⟨haneg, hneg⟩ := List.forall_mem_cons.1 hneg
      have hrest := ih hpos hneg
      cases hp : p a with
      | true =>
          obtain ⟨b, hb, hR⟩ := hapos hp
          simpa [List.filter_cons, hp, hb] using hrest.cons hR
      | false => simpa [List.filter_cons, hp, haneg hp] using hrest

section entries

variable {root : Node} {metadata : Metadata} {s : Sink} {options : Options}

/-- Forgetting the entries leaves the nouns of the book. -/
theorem map_snd_nounsFrom (root : Node) (metadata : Metadata) (s : Sink) :
    (nounsFrom root metadata s).map (·.2) = nounsOf root metadata s := by
  rw [nounsOf_eq, nounsFrom, List.map_filterMap]
  simp [Function.comp_def]

/-- The collisions of the entries are those of the entries with a noun. -/
theorem flatMap_nounCollisions (hcheck : options.checkPhraseNounCollisions = true)
    (phrases : List Phrase) (root : Node) (metadata : Metadata) (s : Sink) :
    ((sectionEntries root .nouns).flatMap fun entry =>
        nounCollisions options phrases entry s (returned (validateNoun entry metadata) s)) =
      (nounsFrom root metadata s).flatMap fun source =>
        collisionReports phrases source.1 source.2 s := by
  rw [nounsFrom, List.filterMap_eq_flatMap_toList, List.flatMap_assoc]
  refine List.flatMap_congr fun entry _ => ?_
  cases returned (validateNoun entry metadata) s with
  | none => rfl
  | some noun => simp [nounCollisions, hcheck]

/-- Every phrase of a document has an English text. -/
theorem exists_sentence_of_mem_phrasesOf {phrase : Phrase}
    (h : phrase ∈ phrasesOf root metadata s) :
    ∃ sentence, phrase.translations.get? Language.english = some sentence := by
  obtain ⟨node, entry, -, -, hentry⟩ := of_mem_phrasesOf h
  obtain ⟨sentence, hsentence, -⟩ := (consistent_validatePhrase hentry).sentence
  exact ⟨sentence, hsentence⟩

/-- The nouns that collide, in their order, with what is reported about them. -/
theorem forall₂_collisions (sources : List (Property × Noun)) (s : Sink) {book : Book}
    (hsentences : ∀ phrase ∈ book.phrases,
      ∃ sentence, phrase.translations.get? Language.english = some sentence) :
    List.Forall₂ (TellsCollision s book)
      (sources.filter fun source => ∃ phrase ∈ book.phrases, phrase.key = source.2.key)
      (sources.flatMap fun source => collisionReports book.phrases source.1 source.2 s) := by
  refine forall₂_filter_flatMap (fun source _ hcollides => ?_) fun source _ hfree => ?_
  · obtain ⟨other, hother, hkey⟩ := of_decide_eq_true hcollides
    have hfound : (book.phrases.find? (·.key == source.2.key)).isSome = true :=
      List.find?_isSome.2 ⟨other, hother, by simp [hkey]⟩
    obtain ⟨phrase, hphrase⟩ := Option.isSome_iff_exists.1 hfound
    obtain ⟨sentence, hsentence⟩ := hsentences phrase (List.mem_of_find?_eq_some hphrase)
    refine ⟨_, ?_, phrase, sentence, hphrase, hsentence, rfl⟩
    simp [collisionReports, hphrase, hsentence]
  · have hnone : book.phrases.find? (·.key == source.2.key) = none := by
      refine List.find?_eq_none.2 fun phrase hphrase => ?_
      have hall := of_decide_eq_false hfree
      simp only [beq_iff_eq]
      exact fun hkey => hall ⟨phrase, hphrase, hkey⟩
    simp [collisionReports, hnone]

end entries

/-! ## the report -/

section report

variable {text fileId : String} {options : Options}

/-- Where collisions are not looked for, none is reported. -/
theorem ofKind_collisions_of_unchecked (text fileId : String)
    (hcheck : options.checkPhraseNounCollisions = false) :
    ofKind .phraseNounDuplicate (validate text fileId options).diagnostics = [] := by
  refine ofKind_eq_nil (codes_validate text fileId options) fun hmem => ?_
  have hchecked := (options_of_mem_letters _ options).2.2.1 hmem
  simp [hcheck] at hchecked

/-- A text without usable metadata has no nouns and no collisions; any other has those of its
entries. -/
theorem nounSources_cases (text fileId : String) (options : Options) :
    let outcome := validate text fileId options
    let s := Sink.ofString text fileId
    (nounSources text fileId = [] ∧ outcome.data.nouns = [] ∧
      ofKind .phraseNounDuplicate outcome.diagnostics = []) ∨
    ∃ root metadata, readDocument text = .ok root ∧
      nounSources text fileId = nounsFrom root metadata s ∧
      outcome.data = ⟨metadata, phrasesOf root metadata s, nounsOf root metadata s⟩ ∧
      ofKind .phraseNounDuplicate outcome.diagnostics =
        (sectionEntries root .nouns).flatMap fun entry =>
          nounCollisions options outcome.data.phrases entry s
            (returned (validateNoun entry metadata) s) := by
  intro outcome s
  unfold nounSources
  cases hread : readDocument text with
  | error fault =>
      refine .inl ⟨rfl, ?_⟩
      simp only [outcome, validate_of_fault hread]
      exact ⟨rfl, rfl⟩
  | ok root =>
      cases hm : returned (validateMetadata root) s with
      | none =>
          refine .inl ⟨by simp [s, hm], ?_⟩
          simp only [outcome, validate_of_unusable hread hm, ofKind_headReports, and_true]
          rfl
      | some metadata =>
          refine .inr ⟨root, metadata, rfl, by simp [s, hm], ?_⟩
          simp [outcome, validate_of_usable hread hm, sectionReports, ofKind_headReports,
            ofKind_phraseReports, ofKind_nounReports, s]

/-- The nouns of a text are those of its book, each once and in order. -/
theorem map_snd_nounSources (text fileId : String) (options : Options) :
    (nounSources text fileId).map (·.2) = (validate text fileId options).data.nouns := by
  obtain ⟨hsources, hnouns, -⟩ | ⟨root, metadata, -, hsources, hdata, -⟩ :=
    nounSources_cases text fileId options
  · rw [hsources, hnouns, List.map_nil]
  · rw [hsources, hdata, map_snd_nounsFrom]

/-- The nouns that collide are reported where collisions are looked for. -/
theorem forall₂_ofKind_collisions (text fileId : String)
    (hcheck : options.checkPhraseNounCollisions = true) :
    let outcome := validate text fileId options
    List.Forall₂ (TellsCollision (.ofString text fileId) outcome.data)
      ((nounSources text fileId).filter fun source =>
        ∃ phrase ∈ outcome.data.phrases, phrase.key = source.2.key)
      (ofKind .phraseNounDuplicate outcome.diagnostics) := by
  intro outcome
  obtain ⟨hsources, -, hnone⟩ | ⟨root, metadata, -, hsources, hdata, hreports⟩ :=
    nounSources_cases text fileId options
  · rw [hsources, hnone]
    exact .nil
  · rw [hsources, hreports, flatMap_nounCollisions hcheck]
    refine forall₂_collisions _ _ fun phrase hphrase => ?_
    rw [show outcome.data = _ from hdata] at hphrase
    exact exists_sentence_of_mem_phrasesOf hphrase

/-- A noun is made from an entry of the nouns, of several with one name the first, and has the key
of its name. -/
theorem of_mem_nounSources {source : Property × Noun} (h : source ∈ nounSources text fileId) :
    ∃ root, readDocument text = .ok root ∧ source.1 ∈ firstMembers root .nouns ∧
      ∃ identifier, Identifier.ofSentence source.1.name = .ok identifier ∧
        identifier.text = source.2.key := by
  obtain ⟨hsources, -, -⟩ | ⟨root, metadata, hread, hsources, -, -⟩ :=
    nounSources_cases text fileId {}
  · simp [hsources] at h
  · rw [hsources, nounsFrom] at h
    obtain ⟨entry, hentry, hsource⟩ := List.mem_filterMap.1 h
    obtain ⟨noun, hnoun, rfl⟩ := Option.map_eq_some_iff.1 hsource
    obtain ⟨-, identifier, hid, rfl⟩ := of_returned_validateNoun hnoun
    exact ⟨root, hread, sectionEntries_eq hread .nouns ▸ hentry, identifier, hid, rfl⟩

/-- **Collisions are reported exactly**: where they are looked for, there is one diagnostic for each
noun of the book whose key a phrase of the book has, in the order of the nouns, at the name that
gives the noun and with the English text of the first phrase that has the key.  Where they are not
looked for, there is none.  The book is the same either way. -/
theorem collisions_reported_exactly (text fileId : String) (options : Options) :
    let outcome := validate text fileId options
    let sources := nounSources text fileId
    let collisions := ofKind .phraseNounDuplicate outcome.diagnostics
    sources.map (·.2) = outcome.data.nouns ∧
      (∀ source ∈ sources, ∃ root, readDocument text = .ok root ∧
        source.1 ∈ firstMembers root .nouns ∧
        ∃ identifier, Identifier.ofSentence source.1.name = .ok identifier ∧
          identifier.text = source.2.key) ∧
      (options.checkPhraseNounCollisions = true →
        List.Forall₂ (TellsCollision (.ofString text fileId) outcome.data)
          (sources.filter fun source => ∃ phrase ∈ outcome.data.phrases, phrase.key = source.2.key)
          collisions) ∧
      (options.checkPhraseNounCollisions = false → collisions = []) ∧
      ∀ looksFor,
        (validate text fileId { options with checkPhraseNounCollisions := looksFor }).data =
          outcome.data :=
  ⟨map_snd_nounSources text fileId options, fun _ => of_mem_nounSources,
    forall₂_ofKind_collisions text fileId, ofKind_collisions_of_unchecked text fileId,
    fun _ => (validate_options text fileId _ options).1⟩

-- The first phrase is dropped for its unknown argument, and the noun that has its key collides with
-- nothing.
example :
    let text :=
      "\x7bmetadata:\x7blanguages:[]\x7d," ++
      "phrases:\x7b'Up \x7bn\x7d':\x7bde:'\x7bm\x7d'\x7d,'Go!':\x7b\x7d,Go:\x7b\x7d\x7d" ++
      ",nouns:\x7bGo:\x7b\x7d,'Up \x7bn\x7d':\x7b\x7d,'Go?':\x7b\x7d\x7d\x7d"
    let outcome := validate text "book" {}
    outcome.data.nouns.map (·.key) = ["Go", "Up_", "Go"] ∧
      (ofKind .phraseNounDuplicate outcome.diagnostics).map (fun d => (d.message, d.offset)) =
        [("Noun 'Go' has a value for the phrase 'Go!'", 77),
          ("Noun 'Go' has a value for the phrase 'Go!'", 95)] := by
  decide +kernel

end report

end Phrasebook
