import Phrasebook.Proofs.Places

/-!
# Phrasebook.Proofs.Drops

Every entry that is left out of the book is explained by a diagnostic, and every such diagnostic
stands for an entry that is left out.

1. An entry is given up just if its check reports something of a kind that stands for this
   (`Section.dropCodes`).
2. What is reported for an entry stands between the start of its name and the end of its value
   (`Member.Holds`), and no other entry of either section holds the same place.
-/

namespace Phrasebook

/-! ## what an entry holds -/

theorem Section.name_injective {a b : Section} (h : a.name = b.name) : a = b := by
  revert h
  cases a <;> cases b <;> decide

/-- A span stands between the start of the name of a member and the end of its value. -/
def Member.Holds (m : Property) (span : Span) : Prop :=
  m.nameSpan.offset ≤ span.offset ∧ span.stop ≤ m.value.span.stop

instance (m : Property) (span : Span) : Decidable (m.Holds span) :=
  inferInstanceAs (Decidable (_ ∧ _))

section holds

variable {text : String} {root : Node} {ms : List Property} {a b m : Property} {span place : Span}
  {entries others : Section}

/-- Of members that stand one behind the other, only one holds a span that is not empty. -/
theorem eq_of_holds (hms : ms.Pairwise (·.value.span.stop ≤ ·.nameSpan.offset)) (ha : a ∈ ms)
    (hb : b ∈ ms) (hpos : 0 < place.length) (hina : a.Holds place)
    (hinb : b.Holds place) : a = b := by
  have hstop : place.stop = place.offset + place.length := rfl
  have hapart : ∀ {x y : Property}, x.Holds place → y.Holds place →
      ¬ x.value.span.stop ≤ y.nameSpan.offset := by
    rintro x y ⟨_, hx⟩ ⟨hy, _⟩ hle
    omega
  induction ms with
  | nil => cases ha
  | cons first rest ih =>
      obtain ⟨hfirst, hrest⟩ := List.pairwise_cons.1 hms
      obtain rfl | harest := List.mem_cons.1 ha <;> obtain rfl | hbrest := List.mem_cons.1 hb
      · rfl
      · exact absurd (hfirst b hbrest) (hapart hina hinb)
      · exact absurd (hfirst a harest) (hapart hinb hina)
      · exact ih hrest harest hbrest

variable (h : readDocument text = .ok root)

include h

/-- An entry holds its places, and none of them is empty. -/
theorem holds_of_mem_places (hobject : root.Contains (.object span ms)) (hm : m ∈ ms)
    (hplace : place ∈ m.places) : m.Holds place ∧ 0 < place.length := by
  have hentry := member_laidOut h hobject hm
  have hcontains := contains_value hobject hm
  have hvalue := laidOut_of_contains h hcontains
  have hname := Nat.le_trans m.nameSpan.offset_le_stop hentry.name_stop_le
  obtain rfl | rfl | ⟨p, hp, rfl⟩ := mem_places.1 hplace
  · have hstop := Nat.le_trans hentry.name_stop_le m.value.span.offset_le_stop
    exact ⟨⟨Nat.le_refl _, hstop⟩, hentry.name_length_pos⟩
  · exact ⟨⟨hname, Nat.le_refl _⟩, hvalue.length_pos⟩
  · obtain ⟨inner, ps, hinner, hmem, -⟩ := of_mem_properties hp
    have hproperty := (hvalue.members ps (by rw [hinner]; rfl)).1 p hmem
    have hpname := Nat.le_trans p.nameSpan.offset_le_stop hproperty.name_stop_le
    have hoffset := Nat.le_trans hname (Nat.le_of_lt hproperty.offset_lt)
    exact ⟨⟨Nat.le_trans hoffset hpname, Nat.le_of_lt hproperty.stop_lt⟩,
      (laidOut_of_contains h (contains_property hcontains hp)).length_pos⟩

/-- What an entry of a section holds, the member of the root holds that is the section. -/
theorem exists_member_holds (ha : a ∈ sectionEntries root entries) (hin : a.Holds place) :
    ∃ rootSpan rms m span ms, root = .object rootSpan rms ∧ m ∈ rms ∧ m.name = entries.name ∧
      m.value = .object span ms ∧ a ∈ ms ∧ m.Holds place := by
  obtain ⟨span, ms, hget, hmem⟩ := of_mem_sectionEntries ha
  obtain ⟨rootSpan, rms, m, rfl, hm, hname, hvalue⟩ := of_get?_eq_some hget
  have hroot := member_laidOut h (.self _) hm
  have hentry := member_laidOut h (contains_of_get? hget) hmem
  have hstart := Nat.le_trans m.nameSpan.offset_le_stop hroot.name_stop_le
  rw [hvalue] at hstart
  refine ⟨rootSpan, rms, m, span, ms, rfl, hm, hname, hvalue, hmem, ?_, ?_⟩
  · exact Nat.le_trans hstart (Nat.le_trans (Nat.le_of_lt hentry.offset_lt) hin.1)
  · rw [hvalue]
    exact Nat.le_trans hin.2 (Nat.le_of_lt hentry.stop_lt)

/-- No two entries of a document, of one section or of both, hold the same place. -/
theorem eq_of_holds_entries (ha : a ∈ sectionEntries root entries)
    (hb : b ∈ sectionEntries root others) (hpos : 0 < place.length) (hina : a.Holds place)
    (hinb : b.Holds place) : entries = others ∧ a = b := by
  obtain ⟨rootSpan, rms, m, span, ms, rfl, hm, hname, hvalue, hams, hmin⟩ :=
    exists_member_holds h ha hina
  obtain ⟨_, _, m', span', ms', hroot, hm', hname', hvalue', hbms, hmin'⟩ :=
    exists_member_holds h hb hinb
  cases hroot
  obtain rfl := eq_of_holds (pairwise_members h (.self _)) hm hm' hpos hmin hmin'
  obtain ⟨rfl, rfl⟩ := Node.object.inj (hvalue.symm.trans hvalue')
  have hobject : (Node.object rootSpan rms).Contains (.object span ms) :=
    hvalue ▸ contains_value (.self _) hm
  refine ⟨?_, eq_of_holds (pairwise_members h hobject) hams hbms hpos hina hinb⟩
  exact Section.name_injective (hname.symm.trans hname')

end holds

/-! ## entries that are given up -/

/-- The kinds of diagnostics that stand for an entry that is left out. -/
def Section.dropCodes : Section → List Code
  | .phrases => [.jsonException, .invalidJsonFormat, .extraPhraseArgument]
  | .nouns => [.jsonException, .invalidJsonFormat]

section drop

variable {s : Sink} {entry : Property} {metadata : Metadata}

theorem exists_drop_of_givenUp {α β : Type} {read : Node → Option α} {check : Check (Option β)}
    (h : GivenUp read entry check s) :
    ∃ d ∈ reported check s, d.code = .jsonException ∨ d.code = .invalidJsonFormat := by
  obtain ⟨place, -, problem, hrep, hcode⟩ := h.reported
  refine ⟨s.locate place problem, by rw [hrep]; exact List.mem_singleton_self _, ?_⟩
  exact hcode.imp And.left And.left

theorem code_of_mem_digitReports {identifier : Identifier} {d : Diagnostic}
    (hd : d ∈ digitReports entry identifier s) : d.code = .keyStartsWithDigit := by
  unfold digitReports at hd
  split at hd
  · rw [List.mem_singleton.1 hd]
    rfl
  · cases hd

/-- A translation with an argument of its own is reported. -/
theorem exists_reported_extraPhraseArgument {translations : List (Translation String)}
    {key : String} (h : ¬ ((foreignTranslations translations).all
      fun t => (unknownArguments (placeholders entry.name) t).isEmpty) = true) :
    ∃ d ∈ reported (phraseOf entry metadata translations key) s, d.code = .extraPhraseArgument := by
  obtain ⟨t, ht, hunknown⟩ := List.all_eq_false.1 (Bool.eq_false_iff.2 h)
  obtain ⟨argument, hargument⟩ := List.exists_mem_of_ne_nil _ (mt List.isEmpty_iff.2 hunknown)
  have hin : s.locate t.node.span (.extraPhraseArgument key argument t.language) ∈
      reported (reportArguments key (placeholders entry.name) t) s :=
    mem_reported_reportArguments.2 (.inl ⟨argument, hargument, rfl⟩)
  exact ⟨_, mem_reported_phraseOf.2 (.inr (.inr ⟨t, ht, hin⟩)), rfl⟩

/-- A phrase is given up just if something is reported that stands for this. -/
theorem returned_validatePhrase_eq_none_iff :
    returned (validatePhrase entry metadata) s = none ↔
      ∃ d ∈ reported (validatePhrase entry metadata) s, d.code ∈ Section.phrases.dropCodes := by
  obtain hgiven | ⟨identifier, -, -, hret, hrep⟩ := validatePhrase_cases entry metadata s
  · refine iff_of_true hgiven.returned ?_
    obtain ⟨d, hd, hcode⟩ := exists_drop_of_givenUp hgiven
    exact ⟨d, hd, by obtain hcode | hcode := hcode <;> simp [Section.dropCodes, hcode]⟩
  · rw [hret, (phraseOf_parts ..).1]
    constructor
    · intro hnone
      split at hnone
      next => cases hnone
      next hnot =>
        obtain ⟨d, hd, hcode⟩ := exists_reported_extraPhraseArgument hnot
        rw [hrep]
        exact ⟨d, List.mem_append_right _ hd, by simp [Section.dropCodes, hcode]⟩
    · rintro ⟨d, hd, hcode⟩
      rw [hrep, List.mem_append, mem_reported_phraseOf] at hd
      obtain hdigit | ⟨_, _, _, _, rfl⟩ | ⟨_, _, _, rfl⟩ | ⟨t, ht, hin⟩ := hd
      · simp [Section.dropCodes, code_of_mem_digitReports hdigit] at hcode
      · simp [Section.dropCodes, Problem.code] at hcode
      · simp [Section.dropCodes, Problem.code] at hcode
      · obtain ⟨argument, hargument, rfl⟩ | ⟨_, _, rfl⟩ := mem_reported_reportArguments.1 hin
        · refine if_neg fun hall => ?_
          rw [List.isEmpty_iff.1 (List.all_eq_true.1 hall t ht)] at hargument
          cases hargument
        · simp [Section.dropCodes, Problem.code] at hcode

/-- A noun is given up just if something is reported that stands for this. -/
theorem returned_validateNoun_eq_none_iff :
    returned (validateNoun entry metadata) s = none ↔
      ∃ d ∈ reported (validateNoun entry metadata) s, d.code ∈ Section.nouns.dropCodes := by
  obtain hgiven | ⟨identifier, -, -, hret, hrep⟩ := validateNoun_cases entry metadata s
  · refine iff_of_true hgiven.returned ?_
    obtain ⟨d, hd, hcode⟩ := exists_drop_of_givenUp hgiven
    exact ⟨d, hd, by obtain hcode | hcode := hcode <;> simp [Section.dropCodes, hcode]⟩
  · rw [hret]
    refine iff_of_false (Option.some_ne_none _) ?_
    rintro ⟨d, hd, hcode⟩
    rw [hrep, List.mem_append, mem_reported_nounOf] at hd
    obtain hdigit | ⟨_, _, _, rfl⟩ | ⟨_, _, _, rfl⟩ | ⟨_, _, _, rfl⟩ := hd
    · simp [Section.dropCodes, code_of_mem_digitReports hdigit] at hcode
    all_goals simp [Section.dropCodes, Problem.code] at hcode

end drop

/-! ## diagnostics and entries -/

/-- What is reported for an entry of a section. -/
def entryReports (metadata : Metadata) (s : Sink) : Section → Property → List Diagnostic
  | .phrases, entry => reported (validatePhrase entry metadata) s
  | .nouns, entry => reported (validateNoun entry metadata) s

/-- No diagnostic stands for this entry being left out. -/
def Kept (entries : Section) (ds : List Diagnostic) (entry : Property) : Prop :=
  ∀ d ∈ ds, d.code ∈ entries.dropCodes → ¬ entry.Holds d.span

instance (entries : Section) (ds : List Diagnostic) (entry : Property) :
    Decidable (Kept entries ds entry) := inferInstanceAs (Decidable (∀ d ∈ ds, _))

section run

variable {text fileId : String} {options : Options} {root : Node} {metadata : Metadata}
  {entry : Property} {d : Diagnostic} (h : readDocument text = .ok root)
  (hm : returned (validateMetadata root) (.ofString text fileId) = some metadata)

theorem exists_place_of_mem_entryReports {s : Sink} {entries : Section}
    (hd : d ∈ entryReports metadata s entries entry) :
    ∃ place ∈ entry.places, ∃ problem, d = s.locate place problem := by
  cases entries with
  | phrases => exact exists_place_validatePhrase hd
  | nouns => exact exists_place_validateNoun hd

include h in
/-- What is reported for an entry stands at places that the entry holds. -/
theorem holds_of_mem_entryReports {s : Sink} {entries : Section}
    (hentry : entry ∈ sectionEntries root entries)
    (hd : d ∈ entryReports metadata s entries entry) : entry.Holds d.span ∧ 0 < d.span.length := by
  obtain ⟨place, hplace, problem, rfl⟩ := exists_place_of_mem_entryReports hd
  obtain ⟨span, ms, hget, hmem⟩ := of_mem_sectionEntries hentry
  exact holds_of_mem_places h (contains_of_get? hget) hmem hplace

include h hm

/-- What is reported for an entry is among the diagnostics. -/
theorem mem_diagnostics_of_mem_entryReports {entries : Section}
    (hentry : entry ∈ sectionEntries root entries)
    (hd : d ∈ entryReports metadata (.ofString text fileId) entries entry) :
    d ∈ (validate text fileId options).diagnostics := by
  rw [validate_of_usable h hm]
  cases entries with
  | phrases =>
      exact List.mem_append_right _
        (List.mem_append_left _ (mem_phraseReports.2 (.inr ⟨entry, hentry, hd⟩)))
  | nouns =>
      exact List.mem_append_right _
        (List.mem_append_right _ (mem_nounReports.2 (.inr ⟨entry, hentry, .inl hd⟩)))

/-- A diagnostic that stands for an entry left out is reported for an entry. -/
theorem exists_entry_of_mem_dropCodes {entries : Section}
    (hd : d ∈ (validate text fileId options).diagnostics) (hcode : d.code ∈ entries.dropCodes) :
    ∃ others, ∃ other ∈ sectionEntries root others,
      d ∈ entryReports metadata (.ofString text fileId) others other := by
  have hdrop : d.code ∈ Section.phrases.dropCodes := by
    cases entries with
    | phrases => exact hcode
    | nouns => exact List.mem_append_left [Code.extraPhraseArgument] hcode
  have hmetadata : ∀ c ∈ Section.phrases.dropCodes,
      c ∉ [Code.noMetadata, .noVersionFound, .noLanguagesFound, .invalidLanguage] := by decide
  rw [validate_of_usable h hm] at hd
  obtain hhead | hsections := List.mem_append.1 hd
  · obtain hrepetition | hin := List.mem_append.1 hhead
    · obtain ⟨-, m, -, rfl⟩ := mem_repetitionReports.1 hrepetition
      simp [Section.dropCodes, Problem.code] at hdrop
    · obtain ⟨_, problem, -, rfl, hkind⟩ := exists_place_validateMetadata hin
      exact absurd hkind (hmetadata _ hdrop)
  · obtain hphrase | hnoun := List.mem_append.1 hsections
    · obtain ⟨-, rfl⟩ | ⟨other, hother, hin⟩ := mem_phraseReports.1 hphrase
      · simp [Section.dropCodes, Problem.code] at hdrop
      · exact ⟨.phrases, other, hother, hin⟩
    · obtain ⟨-, -, rfl⟩ | ⟨other, hother, hin | hcollision⟩ := mem_nounReports.1 hnoun
      · simp [Section.dropCodes, Problem.code] at hdrop
      · exact ⟨.nouns, other, hother, hin⟩
      · obtain ⟨key, phrase, rfl⟩ := of_mem_nounCollisions hcollision
        simp [Section.dropCodes, Problem.code] at hdrop

/-- A diagnostic that stands for an entry left out is reported for the entry that holds its
place. -/
theorem mem_entryReports_of_holds {entries : Section} (hentry : entry ∈ sectionEntries root entries)
    (hd : d ∈ (validate text fileId options).diagnostics) (hcode : d.code ∈ entries.dropCodes)
    (hholds : entry.Holds d.span) :
    d ∈ entryReports metadata (.ofString text fileId) entries entry := by
  obtain ⟨others, other, hother, hin⟩ := exists_entry_of_mem_dropCodes h hm hd hcode
  obtain ⟨hholds', hpos⟩ := holds_of_mem_entryReports h hother hin
  -- the place is that of one entry only
  obtain ⟨rfl, rfl⟩ := eq_of_holds_entries h hentry hother hpos hholds hholds'
  exact hin

/-- An entry is kept just if none of its own reports stands for its being left out. -/
theorem kept_iff {entries : Section} (hentry : entry ∈ sectionEntries root entries) :
    Kept entries (validate text fileId options).diagnostics entry ↔
      ∀ d ∈ entryReports metadata (.ofString text fileId) entries entry,
        d.code ∉ entries.dropCodes := by
  constructor
  · intro hkept d hd hcode
    exact hkept d (mem_diagnostics_of_mem_entryReports h hm hentry hd) hcode
      (holds_of_mem_entryReports h hentry hd).1
  · intro hnone d hd hcode hholds
    exact hnone d (mem_entryReports_of_holds h hm hentry hd hcode hholds) hcode

/-- Where the reports of an entry tell whether its check gives something, so do the diagnostics. -/
theorem kept_iff_isSome {α : Type} {entries : Section} {result : Option α}
    (hentry : entry ∈ sectionEntries root entries)
    (hresult : result = none ↔
      ∃ d ∈ entryReports metadata (.ofString text fileId) entries entry,
        d.code ∈ entries.dropCodes) :
    Kept entries (validate text fileId options).diagnostics entry ↔ result.isSome = true := by
  rw [kept_iff h hm hentry, ← Option.ne_none_iff_isSome, Ne, hresult]
  simp only [not_exists, not_and]

theorem decide_kept {α : Type} {entries : Section} {result : Option α}
    (hentry : entry ∈ sectionEntries root entries)
    (hresult : result = none ↔
      ∃ d ∈ entryReports metadata (.ofString text fileId) entries entry,
        d.code ∈ entries.dropCodes) :
    decide (Kept entries (validate text fileId options).diagnostics entry) = result.isSome := by
  rw [Bool.eq_iff_iff, decide_eq_true_iff]
  exact kept_iff_isSome h hm hentry hresult

end run

/-! ## books and entries -/

/-- **Every entry left out is explained, and every explanation means that an entry is left out**:
the phrases and the nouns of a document with usable metadata are, in order, those of the entries for
which no diagnostic says otherwise. -/
theorem entries_kept_or_explained (text fileId : String) (options : Options) (root node : Node)
    (elements : List Node) (h : readDocument text = .ok root)
    (hdeclares : root.Declares node elements) :
    let outcome := validate text fileId options
    let kept := fun entries =>
      (firstMembers root entries).filter fun entry => Kept entries outcome.diagnostics entry
    outcome.data.phrases.map (·.translations.get? Language.english) =
        (kept .phrases).map (fun entry => some entry.name) ∧
      outcome.data.nouns.map (fun noun => some noun.key) =
        (kept .nouns).map fun entry =>
          (Identifier.ofSentence entry.name).toOption.map (·.text) := by
  obtain ⟨metadata, hm⟩ := exists_returned_of_declares hdeclares (.ofString text fileId)
  intro outcome kept
  have hdata : outcome.data = ⟨metadata, phrasesOf root metadata (.ofString text fileId),
      nounsOf root metadata (.ofString text fileId)⟩ :=
    congrArg Outcome.data (validate_of_usable h hm)
  have hfirst := sectionEntries_eq h
  rw [hdata, phrasesOf_eq, nounsOf_eq, hfirst, hfirst]
  constructor
  · refine map_filterMap_eq (fun entry hentry => ?_) fun entry _ phrase hphrase => ?_
    · exact decide_kept h hm (hfirst .phrases ▸ hentry) returned_validatePhrase_eq_none_iff
    · obtain ⟨translations, identifier, -, -, rfl⟩ := of_returned_validatePhrase hphrase
      exact Translations.get?_insert_self _ _ _
  · refine map_filterMap_eq (fun entry hentry => ?_) fun entry _ noun hnoun => ?_
    · exact decide_kept h hm (hfirst .nouns ▸ hentry) returned_validateNoun_eq_none_iff
    · obtain ⟨translations, identifier, hid, rfl⟩ := of_returned_validateNoun hnoun
      rw [hid]
      rfl

/-- A document in which a phrase with an argument of its own, a phrase with the name of another one
and a noun without an array are left out. -/
def droppingText : String :=
  "\x7bmetadata:\x7blanguages:['de']\x7d," ++
    "phrases:\x7b'Hi \x7ba\x7d':\x7bde:'\x7bb\x7d'\x7d,Yes:\x7bde:'Ja'\x7d,Yes:null\x7d," ++
    "nouns:\x7bcat:\x7bde:true\x7d,dog:\x7bde:['Hund','Hunde'],en:['dog','dogs']\x7d\x7d\x7d"

/-- The metadata of `droppingText`. -/
def droppingMetadata : Node :=
  .object ⟨10, 18⟩ [⟨"languages", ⟨11, 9⟩, .array ⟨21, 6⟩ [.string ⟨22, 4⟩ "de"], false⟩]

/-- What `droppingText` is read as. -/
def droppingRoot : Node :=
  .object ⟨0, 148⟩
    [⟨"metadata", ⟨1, 8⟩, droppingMetadata, false⟩,
      ⟨"phrases", ⟨29, 7⟩,
        .object ⟨37, 44⟩
          [⟨"Hi \x7ba\x7d", ⟨38, 8⟩,
              .object ⟨47, 10⟩ [⟨"de", ⟨48, 2⟩, .string ⟨51, 5⟩ "\x7bb\x7d", false⟩], false⟩,
            ⟨"Yes", ⟨58, 3⟩, .object ⟨62, 9⟩ [⟨"de", ⟨63, 2⟩, .string ⟨66, 4⟩ "Ja", false⟩], false⟩,
            ⟨"Yes", ⟨72, 3⟩, .null ⟨76, 4⟩, true⟩], false⟩,
      ⟨"nouns", ⟨82, 5⟩,
        .object ⟨88, 59⟩
          [⟨"cat", ⟨89, 3⟩, .object ⟨93, 9⟩ [⟨"de", ⟨94, 2⟩, .boolean ⟨97, 4⟩ true, false⟩], false⟩,
            ⟨"dog", ⟨103, 3⟩,
              .object ⟨107, 39⟩
                [⟨"de", ⟨108, 2⟩, .array ⟨111, 16⟩ [.string ⟨112, 6⟩ "Hund",
                  .string ⟨119, 7⟩ "Hunde"],
                    false⟩,
                  ⟨"en", ⟨128, 2⟩, .array ⟨131, 14⟩ [.string ⟨132, 5⟩ "dog",
                    .string ⟨138, 6⟩ "dogs"], false⟩], false⟩], false⟩]

theorem entries_kept_or_explained_droppingText :
    readDocument droppingText = .ok droppingRoot ∧
      droppingRoot.Declares droppingMetadata [.string ⟨22, 4⟩ "de"] ∧
      let outcome := validate droppingText "book" {}
      let kept := fun entries =>
        (firstMembers droppingRoot entries).filter fun entry =>
          Kept entries outcome.diagnostics entry
      outcome.data.phrases.map (·.translations.get? Language.english) =
          (kept .phrases).map (fun entry => some entry.name) ∧
        outcome.data.nouns.map (fun noun => some noun.key) =
          (kept .nouns).map fun entry =>
            (Identifier.ofSentence entry.name).toOption.map (·.text) := by
  have hroot : readDocument droppingText = .ok droppingRoot := by
    set_option maxRecDepth 4000 in with_unfolding_all rfl
  have hdeclares : droppingRoot.Declares droppingMetadata [.string ⟨22, 4⟩ "de"] := ⟨rfl, rfl, rfl⟩
  exact ⟨hroot, hdeclares, entries_kept_or_explained droppingText "book" {} _ _ _ hroot hdeclares⟩

end Phrasebook
