import Mathlib.Computability.RegularExpressions
import Phrasebook.Proofs.Reports

/-!
# Phrasebook.Proofs.Stages

The diagnostics of a check come in the order of its stages.

```text
unreadable  = jsonException
noMetadata  = duplicateKey* noMetadata
noLanguages = duplicateKey* noVersionFound? noLanguagesFound
finished    = duplicateKey* noVersionFound? invalidLanguage* phrases nouns
```

Which of the four it is depends on the document alone (`Stage.reached`).  The sections are made of
blocks, one for each entry: each validator has a pattern of its own, and the pattern of a section
follows by induction on its entries.
-/

namespace Phrasebook

/-! ## patterns of codes -/

/-- The codes of some diagnostics. -/
def codes (ds : List Diagnostic) : List Code := ds.map (·.code)

@[simp] theorem codes_nil : codes [] = [] := rfl

@[simp] theorem codes_cons (d : Diagnostic) (ds : List Diagnostic) :
    codes (d :: ds) = d.code :: codes ds :=
  rfl

@[simp] theorem codes_append (ds es : List Diagnostic) : codes (ds ++ es) = codes ds ++ codes es :=
  List.map_append

/-- A pattern that sequences of codes can match. -/
abbrev Pattern := RegularExpression Code

namespace Pattern

open RegularExpression

/-- One diagnostic of a kind. -/
def once (c : Code) : Pattern := char c

/-- At most one diagnostic of a kind. -/
def maybe (c : Code) : Pattern := 1 + once c

/-- Any number of diagnostics of a kind. -/
def many (c : Code) : Pattern := star (once c)

/-- A pattern under a condition, and nothing without it. -/
def onlyIf (condition : Prop) [Decidable condition] (p : Pattern) : Pattern :=
  if condition then p else 1

/-- What is reported for a phrase. -/
def phrase : Pattern :=
  once .jsonException + once .invalidJsonFormat +
    maybe .keyStartsWithDigit * many .missingTranslation * many .extraTranslation *
      star (many .extraPhraseArgument * many .missingPhraseArgument)

/-- What is reported for a noun. -/
def noun (options : Options) : Pattern :=
  once .jsonException + once .invalidJsonFormat +
    maybe .keyStartsWithDigit * many .missingTranslation * many .extraTranslation *
      many .nounIsIncomplete * onlyIf options.checkPhraseNounCollisions (maybe .phraseNounDuplicate)

/-- What is reported for repeated names. -/
def repetitions (options : Options) : Pattern :=
  onlyIf (options.duplicateKeys = .reject) (many .duplicateKey)

/-- What is reported for the section of phrases. -/
def phrases : Pattern := once .noPhrasesFound + star phrase

/-- What is reported for the section of nouns. -/
def nouns (options : Options) : Pattern :=
  onlyIf (options.missingNouns = .warn) (once .noNounsFound) + star (noun options)

/-! ## matching a pattern -/

variable {α : Type} {p q : Pattern} {c : Code} {cs : List Code}

theorem mem_once : [c] ∈ (once c).matches' := Set.mem_singleton _

theorem nil_mem_one : [] ∈ (1 : Pattern).matches' := Set.mem_singleton _

theorem nil_mem_maybe : [] ∈ (maybe c).matches' := .inl nil_mem_one

theorem singleton_mem_maybe : [c] ∈ (maybe c).matches' := .inr mem_once

/-- A list that is put together from blocks matches the repetition of what each block matches. -/
theorem codes_flatMap_mem_star {items : List α} {block : α → List Diagnostic}
    (h : ∀ a ∈ items, codes (block a) ∈ p.matches') :
    codes (items.flatMap block) ∈ (star p).matches' := by
  have hcodes : codes (items.flatMap block) = (items.map fun a => codes (block a)).flatten := by
    rw [codes, List.map_flatMap, List.flatMap_def]
    rfl
  rw [hcodes]
  refine Language.join_mem_kstar fun block hblock => ?_
  obtain ⟨a, ha, rfl⟩ := List.mem_map.1 hblock
  exact h a ha

/-- Diagnostics of one kind match any number of this kind. -/
theorem codes_mem_many {ds : List Diagnostic} (h : ∀ d ∈ ds, d.code = c) :
    codes ds ∈ (many c).matches' := by
  rw [← List.flatMap_singleton' ds]
  refine codes_flatMap_mem_star fun d hd => ?_
  rw [codes_cons, h d hd]
  exact mem_once

theorem codes_map_mem_many {items : List α} {report : α → Diagnostic}
    (h : ∀ a, (report a).code = c) : codes (items.map report) ∈ (many c).matches' :=
  codes_mem_many (List.forall_mem_map.2 fun a _ => h a)

theorem append_mem_mul {ds : List Code} (hp : cs ∈ p.matches') (hq : ds ∈ q.matches') :
    cs ++ ds ∈ (p * q).matches' := Language.append_mem_mul hp hq

theorem mem_mul_assoc {r : Pattern} (h : cs ∈ (p * (q * r)).matches') :
    cs ∈ (p * q * r).matches' := by
  rwa [matches'_mul, matches'_mul, mul_assoc, ← matches'_mul]

/-! ## the codes of a pattern -/

/-- The codes that stand in a pattern. -/
def letters : Pattern → List Code
  | .zero | .epsilon => []
  | .char c => [c]
  | .plus p q | .comp p q => letters p ++ letters q
  | .star p => letters p

/-- What matches a pattern is made of its codes. -/
theorem mem_letters (h : cs ∈ p.matches') (hc : c ∈ cs) : c ∈ letters p := by
  induction p generalizing cs with
  | zero => cases h
  | epsilon =>
      rw [Set.mem_singleton_iff.1 h] at hc
      cases hc
  | char a =>
      rw [Set.mem_singleton_iff.1 h] at hc
      exact hc
  | plus p q ihp ihq =>
      obtain h | h := h
      · exact List.mem_append_left _ (ihp h hc)
      · exact List.mem_append_right _ (ihq h hc)
  | comp p q ihp ihq =>
      obtain ⟨xs, hxs, ys, hys, rfl⟩ := Language.mem_mul.1 h
      obtain hc | hc := List.mem_append.1 hc
      · exact List.mem_append_left _ (ihp hxs hc)
      · exact List.mem_append_right _ (ihq hys hc)
  | star p ih =>
      obtain ⟨blocks, rfl, hblocks⟩ := Language.mem_kstar.1 h
      obtain ⟨block, hblock, hin⟩ := List.mem_flatten.1 hc
      exact ih (hblocks block hblock) hin

end Pattern

open Pattern

/-! ## diagnostics of one kind -/

/-- The diagnostics of a kind, in their order. -/
def ofKind (c : Code) (ds : List Diagnostic) : List Diagnostic := ds.filter (·.code = c)

section ofKind

variable {c : Code} {ds : List Diagnostic}

@[simp] theorem ofKind_append (c : Code) (ds es : List Diagnostic) :
    ofKind c (ds ++ es) = ofKind c ds ++ ofKind c es := List.filter_append ..

theorem ofKind_eq_self (h : ∀ d ∈ ds, d.code = c) : ofKind c ds = ds :=
  List.filter_eq_self.2 fun d hd => by simp [h d hd]

theorem ofKind_map {α : Type} {items : List α} {report : α → Diagnostic}
    (h : ∀ x, (report x).code = c) : ofKind c (items.map report) = items.map report :=
  ofKind_eq_self (List.forall_mem_map.2 fun x _ => h x)

/-- Diagnostics that match a pattern are of no kind that does not stand in it. -/
theorem ofKind_eq_nil {p : Pattern} (h : codes ds ∈ p.matches') (hc : c ∉ p.letters) :
    ofKind c ds = [] := by
  refine List.filter_eq_nil_iff.2 fun d hd => ?_
  have hmem : d.code ∈ p.letters := mem_letters h (List.mem_map_of_mem hd)
  simp only [decide_eq_true_eq]
  rintro rfl
  exact hc hmem

end ofKind

/-! ## the blocks of entries -/

section entries

variable {s : Sink} {entry : Property} {metadata : Metadata}

theorem codes_digitReports (entry : Property) (identifier : Identifier) (s : Sink) :
    codes (digitReports entry identifier s) ∈ (maybe .keyStartsWithDigit).matches' := by
  unfold digitReports
  split
  · exact singleton_mem_maybe
  · exact nil_mem_maybe

theorem codes_reportMissing (entry : Property) (key : String)
    (required present : List String) (s : Sink) :
    codes (reported (reportMissing entry key required present) s) ∈
      (many .missingTranslation).matches' := by
  rw [reported_reportMissing]
  exact codes_map_mem_many fun _ => rfl

theorem codes_reportExtra {α : Type} (key : String) (known : List String)
    (translations : List (Translation α)) (s : Sink) :
    codes (reported (reportExtra key known translations) s) ∈
      (many .extraTranslation).matches' := by
  rw [reported_reportExtra]
  exact codes_map_mem_many fun _ => rfl

theorem codes_reportArguments (key : String) (arguments : List String)
    (t : Translation String) (s : Sink) :
    codes (reported (reportArguments key arguments t) s) ∈
      (many .extraPhraseArgument * many .missingPhraseArgument).matches' := by
  rw [reported_reportArguments, codes_append]
  exact append_mem_mul (codes_map_mem_many fun _ => rfl) (codes_map_mem_many fun _ => rfl)

/-- An entry that is given up has one diagnostic, of one of two kinds. -/
theorem codes_of_givenUp {α β : Type} {read : Node → Option α} {check : Check (Option β)}
    {p : Pattern} (h : GivenUp read entry check s) :
    codes (reported check s) ∈ (once .jsonException + once .invalidJsonFormat + p).matches' := by
  obtain ⟨place, -, problem, hrep, hcode⟩ := h.reported
  rw [hrep, codes_cons, Sink.code_locate]
  obtain ⟨hjson, -⟩ | ⟨hformat, -⟩ := hcode
  · rw [hjson]
    exact .inl (.inl mem_once)
  · rw [hformat]
    exact .inl (.inr mem_once)

theorem codes_validatePhrase (entry : Property) (metadata : Metadata) (s : Sink) :
    codes (reported (validatePhrase entry metadata) s) ∈ phrase.matches' := by
  obtain hgiven | ⟨identifier, -, -, -, hrep⟩ := validatePhrase_cases entry metadata s
  · exact codes_of_givenUp hgiven
  · rw [hrep, (phraseOf_parts ..).2]
    simp only [codes_append, ← List.append_assoc]
    refine .inr (append_mem_mul (append_mem_mul (append_mem_mul ?_ ?_) ?_) ?_)
    · exact codes_digitReports entry identifier s
    · exact codes_reportMissing _ _ _ _ s
    · exact codes_reportExtra _ _ _ s
    · exact codes_flatMap_mem_star fun t _ => codes_reportArguments _ _ t s

theorem codes_collisionReports (phrases : List Phrase) (entry : Property) (noun : Noun) (s : Sink) :
    codes (collisionReports phrases entry noun s) ∈ (maybe .phraseNounDuplicate).matches' := by
  unfold collisionReports
  split
  · exact singleton_mem_maybe
  · exact nil_mem_maybe

theorem codes_nounCollisions (options : Options) (phrases : List Phrase) (entry : Property)
    (s : Sink) (noun? : Option Noun) :
    codes (nounCollisions options phrases entry s noun?) ∈
      (onlyIf options.checkPhraseNounCollisions (maybe .phraseNounDuplicate)).matches' := by
  unfold nounCollisions onlyIf
  cases hcheck : options.checkPhraseNounCollisions <;> cases noun?
  · exact nil_mem_one
  · exact nil_mem_one
  · exact nil_mem_maybe
  · exact codes_collisionReports phrases entry _ s

/-- The block of a noun: what its validator reports, and its collision if it has one. -/
theorem codes_noun (options : Options) (phrases : List Phrase) (entry : Property)
    (metadata : Metadata) (s : Sink) :
    codes (reported (validateNoun entry metadata) s ++
      nounCollisions options phrases entry s (returned (validateNoun entry metadata) s)) ∈
        (noun options).matches' := by
  obtain hgiven | ⟨identifier, -, -, -, hrep⟩ := validateNoun_cases entry metadata s
  · -- what is given up collides with nothing
    rw [hgiven.returned, nounCollisions, List.append_nil]
    exact codes_of_givenUp hgiven
  · rw [hrep, (nounOf_parts ..).2]
    simp only [codes_append, ← List.append_assoc]
    refine .inr (append_mem_mul (append_mem_mul (append_mem_mul (append_mem_mul ?_ ?_) ?_) ?_) ?_)
    · exact codes_digitReports entry identifier s
    · exact codes_reportMissing _ _ _ _ s
    · exact codes_reportExtra _ _ _ s
    · exact codes_map_mem_many fun _ => rfl
    · exact codes_nounCollisions options phrases entry s _

/-! ## the sections -/

theorem codes_phraseReports (root : Node) (metadata : Metadata) (s : Sink) :
    codes (phraseReports root metadata s) ∈ phrases.matches' := by
  unfold phraseReports
  split
  · exact .inr (codes_flatMap_mem_star fun entry _ => codes_validatePhrase entry metadata s)
  · exact .inl mem_once

theorem codes_nounReports (options : Options) (root : Node) (metadata : Metadata)
    (phrases : List Phrase) (s : Sink) :
    codes (nounReports options root metadata phrases s) ∈ (nouns options).matches' := by
  unfold nounReports nouns onlyIf
  cases sectionOf? root .nouns with
  | some node =>
      exact .inr (codes_flatMap_mem_star fun entry _ => codes_noun options phrases entry metadata s)
  | none =>
      split
      · exact .inl mem_once
      · exact .inl nil_mem_one

end entries

/-! ## stages -/

/-- How far the check of a document gets. -/
inductive Stage where
  /-- The text is no document. -/
  | unreadable
  /-- The document has no object as its metadata. -/
  | noMetadata
  /-- The metadata have no array as their languages. -/
  | noLanguages
  /-- Both sections have been checked. -/
  | finished
  deriving DecidableEq, Repr

namespace Stage

/-- The stage that the check of a document with this root gets to. -/
def ofRoot (root : Node) : Stage :=
  match (root.get? "metadata").filter Node.isObject with
  | none => .noMetadata
  | some node =>
    match (node.get? "languages").bind Node.elements? with
    | none => .noLanguages
    | some _ => .finished

/-- The stage that the check of a text gets to. -/
def reached (text : String) : Stage :=
  match readDocument text with
  | .error _ => .unreadable
  | .ok root => ofRoot root

/-- What is reported for a text whose check gets to a stage. -/
def pattern (options : Options) : Stage → Pattern
  | unreadable => once .jsonException
  | noMetadata => repetitions options * once .noMetadata
  | noLanguages => repetitions options * maybe .noVersionFound * once .noLanguagesFound
  | finished =>
    repetitions options * maybe .noVersionFound * many .invalidLanguage * Pattern.phrases *
      Pattern.nouns options

end Stage

theorem Stage.ofRoot_ne_unreadable (root : Node) : Stage.ofRoot root ≠ .unreadable := by
  unfold Stage.ofRoot
  cases (root.get? "metadata").filter Node.isObject with
  | none => exact Stage.noConfusion
  | some node =>
      show (match (node.get? "languages").bind Node.elements? with
        | none => Stage.noLanguages
        | some _ => Stage.finished) ≠ .unreadable
      cases (node.get? "languages").bind Node.elements? with
      | none => exact Stage.noConfusion
      | some elements => exact Stage.noConfusion

theorem reached_eq_unreadable_iff (text : String) :
    Stage.reached text = .unreadable ↔ ∃ fault, readDocument text = .error fault := by
  unfold Stage.reached
  cases readDocument text with
  | error fault => exact iff_of_true rfl ⟨fault, rfl⟩
  | ok root => exact iff_of_false (Stage.ofRoot_ne_unreadable root) fun ⟨_, h⟩ => nomatch h

theorem codes_versionOf (node : Node) (s : Sink) :
    codes (reported (versionOf node) s) ∈ (maybe .noVersionFound).matches' := by
  obtain hnil | hone := versionOf_cases node s
  · rw [hnil]
    exact nil_mem_maybe
  · rw [hone]
    exact singleton_mem_maybe

theorem codes_languageOf (element : Node) (s : Sink) :
    ∀ d ∈ reported (languageOf element) s, d.code = .invalidLanguage := by
  obtain ⟨_, _, _, _, _, hnil⟩ | ⟨reason, _, hone⟩ := languageOf_cases element s
  · rw [hnil]
    exact fun _ h => absurd h List.not_mem_nil
  · rw [hone]
    exact List.forall_mem_singleton.2 rfl

/-- The metadata are those of the section, if it is an object. -/
theorem validateMetadata_eq (root : Node) :
    validateMetadata root =
      match (root.get? "metadata").filter Node.isObject with
      | none => do
        reportNode ((root.get? "metadata").getD root) .noMetadata
        pure none
      | some node => metadataOf node := by
  unfold validateMetadata
  cases root.get? "metadata" with
  | none => rfl
  | some node => cases hobject : node.isObject <;> simp [Option.filter, hobject]

/-- What the check of the metadata returns and reports at each stage. -/
theorem codes_validateMetadata (root : Node) (s : Sink) :
    (Stage.ofRoot root = .noMetadata ∧ returned (validateMetadata root) s = none ∧
      codes (reported (validateMetadata root) s) ∈ (once .noMetadata).matches') ∨
    (Stage.ofRoot root = .noLanguages ∧ returned (validateMetadata root) s = none ∧
      codes (reported (validateMetadata root) s) ∈
        (maybe .noVersionFound * once .noLanguagesFound).matches') ∨
    (Stage.ofRoot root = .finished ∧ (returned (validateMetadata root) s).isSome = true ∧
      codes (reported (validateMetadata root) s) ∈
        (maybe .noVersionFound * many .invalidLanguage).matches') := by
  rw [validateMetadata_eq, Stage.ofRoot]
  cases (root.get? "metadata").filter Node.isObject with
  | none => exact .inl ⟨rfl, rfl, mem_once⟩
  | some node =>
      have hversion := codes_versionOf node s
      obtain ⟨hlanguages, hret, hrep⟩ | ⟨elements, hlanguages, hret, hrep⟩ :=
        metadataOf_cases node s
      · refine .inr (.inl ⟨by simp only [hlanguages], hret, ?_⟩)
        rw [hrep, codes_append]
        exact append_mem_mul hversion mem_once
      · refine .inr (.inr ⟨by simp only [hlanguages], by simp only [hret, Option.isSome_some], ?_⟩)
        rw [hrep, codes_append]
        refine append_mem_mul hversion (codes_mem_many fun d hd => ?_)
        obtain ⟨element, -, hin⟩ := List.mem_flatMap.1 hd
        exact codes_languageOf element s d hin

theorem codes_repetitionReports (options : Options) (root : Node) (s : Sink) :
    codes (repetitionReports options root s) ∈ (repetitions options).matches' := by
  unfold repetitionReports repetitions onlyIf
  split
  · exact codes_map_mem_many fun _ => rfl
  · exact nil_mem_one

/-! ## the whole run -/

section run

variable {text fileId : String} {options : Options} {root : Node}

theorem codes_of_unusable (h : readDocument text = .ok root)
    (hm : returned (validateMetadata root) (.ofString text fileId) = none) :
    codes (validate text fileId options).diagnostics =
      codes (repetitionReports options root (.ofString text fileId)) ++
        codes (reported (validateMetadata root) (.ofString text fileId)) := by
  rw [validate_of_unusable h hm, headReports, codes_append]

theorem codes_of_usable {metadata : Metadata} (h : readDocument text = .ok root)
    (hm : returned (validateMetadata root) (.ofString text fileId) = some metadata) :
    codes (validate text fileId options).diagnostics =
      codes (repetitionReports options root (.ofString text fileId)) ++
        codes (reported (validateMetadata root) (.ofString text fileId)) ++
        codes (phraseReports root metadata (.ofString text fileId)) ++
        codes (nounReports options root metadata (phrasesOf root metadata (.ofString text fileId))
          (.ofString text fileId)) := by
  rw [validate_of_usable h hm, headReports, sectionReports]
  simp only [codes_append, List.append_assoc]

end run

/-- The codes of a run match the pattern of the stage that it gets to. -/
theorem codes_validate (text fileId : String) (options : Options) :
    codes (validate text fileId options).diagnostics ∈
      ((Stage.reached text).pattern options).matches' := by
  unfold Stage.reached
  cases hread : readDocument text with
  | error fault =>
      rw [validate_of_fault hread]
      exact mem_once
  | ok root =>
      have hrepetitions := codes_repetitionReports options root (.ofString text fileId)
      show _ ∈ ((Stage.ofRoot root).pattern options).matches'
      obtain ⟨hstage, hret, hmetadata⟩ | ⟨hstage, hret, hmetadata⟩ | ⟨hstage, hret, hmetadata⟩ :=
        codes_validateMetadata root (.ofString text fileId)
      · rw [hstage, codes_of_unusable hread hret]
        exact append_mem_mul hrepetitions hmetadata
      · rw [hstage, codes_of_unusable hread hret]
        exact mem_mul_assoc (append_mem_mul hrepetitions hmetadata)
      · obtain ⟨metadata, hm⟩ := Option.isSome_iff_exists.1 hret
        rw [hstage, codes_of_usable hread hm]
        have hhead := mem_mul_assoc (append_mem_mul hrepetitions hmetadata)
        exact append_mem_mul (append_mem_mul hhead (codes_phraseReports root metadata _))
          (codes_nounReports options root metadata _ _)

/-- The book of a run is empty, unless both sections are checked. -/
theorem data_eq_empty_of_reached {text : String} (h : Stage.reached text ≠ .finished)
    (fileId : String) (options : Options) : (validate text fileId options).data = .empty := by
  unfold Stage.reached at h
  cases hread : readDocument text with
  | error fault => rw [validate_of_fault hread]
  | ok root =>
      rw [hread] at h
      obtain ⟨-, hret, -⟩ | ⟨-, hret, -⟩ | ⟨hstage, -, -⟩ :=
        codes_validateMetadata root (.ofString text fileId)
      · rw [validate_of_unusable hread hret]
      · rw [validate_of_unusable hread hret]
      · exact absurd hstage h

/-- Where both sections are checked, the book has the metadata of the document. -/
theorem metadata_of_finished {text : String} (h : Stage.reached text = .finished) (fileId : String)
    (options : Options) :
    ∃ root, readDocument text = .ok root ∧
      returned (validateMetadata root) (.ofString text fileId) =
        some (validate text fileId options).data.metadata := by
  unfold Stage.reached at h
  cases hread : readDocument text with
  | error fault =>
      rw [hread] at h
      cases h
  | ok root =>
      rw [hread] at h
      refine ⟨root, rfl, ?_⟩
      obtain ⟨hstage, -, -⟩ | ⟨hstage, -, -⟩ | ⟨-, hret, -⟩ :=
        codes_validateMetadata root (.ofString text fileId)
      · cases hstage.symm.trans h
      · cases hstage.symm.trans h
      · obtain ⟨metadata, hm⟩ := Option.isSome_iff_exists.1 hret
        rw [hm, validate_of_usable hread hm]

example : Stage.reached "\x7bmetadata:\x7bversion:7\x7d\x7d" = .noLanguages := by decide +kernel

example :
    codes (validate "\x7bmetadata:\x7bversion:7\x7d\x7d" "book" {}).diagnostics =
      [.noVersionFound, .noLanguagesFound] := by decide +kernel

/-- Some kinds of diagnostics need an option, and one is never reported. -/
theorem options_of_mem_letters (stage : Stage) (options : Options) :
    (.duplicateKey ∈ (stage.pattern options).letters → options.duplicateKeys = .reject) ∧
      (.noNounsFound ∈ (stage.pattern options).letters → options.missingNouns = .warn) ∧
      (.phraseNounDuplicate ∈ (stage.pattern options).letters →
        options.checkPhraseNounCollisions = true) ∧
      .noJson ∉ (stage.pattern options).letters := by
  obtain ⟨missingNouns, duplicateKeys, collisions⟩ := options
  cases missingNouns <;> cases duplicateKeys <;> cases collisions <;> cases stage <;> decide

/-- **Diagnostics follow the stages of the check**: their codes match the pattern of the stage that
the text gets to, kinds that need an option occur only with it, and the book is empty unless both
sections are checked. -/
theorem diagnostics_follow_stages (text fileId : String) (options : Options) :
    let outcome := validate text fileId options
    let stage := Stage.reached text
    codes outcome.diagnostics ∈ (stage.pattern options).matches' ∧
      (stage = .unreadable ↔ ∃ fault, readDocument text = .error fault) ∧
      (.duplicateKey ∈ codes outcome.diagnostics → options.duplicateKeys = .reject) ∧
      (.noNounsFound ∈ codes outcome.diagnostics → options.missingNouns = .warn) ∧
      (.phraseNounDuplicate ∈ codes outcome.diagnostics →
        options.checkPhraseNounCollisions = true) ∧
      .noJson ∉ codes outcome.diagnostics ∧
      (stage ≠ .finished → outcome.data = .empty) ∧
      (stage = .finished → ∃ root, readDocument text = .ok root ∧
        returned (validateMetadata root) (.ofString text fileId) = some outcome.data.metadata) := by
  intro outcome stage
  have hmatches := codes_validate text fileId options
  obtain ⟨hduplicate, hnouns, hcollision, hnone⟩ := options_of_mem_letters stage options
  refine ⟨hmatches, reached_eq_unreadable_iff text, fun h => hduplicate (mem_letters hmatches h),
    fun h => hnouns (mem_letters hmatches h), fun h => hcollision (mem_letters hmatches h),
    fun h => hnone (mem_letters hmatches h), fun h => data_eq_empty_of_reached h fileId options,
    fun h => metadata_of_finished h fileId options⟩

end Phrasebook
