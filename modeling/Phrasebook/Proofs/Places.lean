import Mathlib.Data.List.Induction
import Phrasebook.Proofs.Keys
import Phrasebook.Proofs.Layout
import Phrasebook.Proofs.Reports

/-!
# Phrasebook.Proofs.Places

Where in a document its diagnostics are reported.

A place of a document is the span of one of its nodes, or that of a name in one of its objects
(`Node.Place`).  Every diagnostic of a document is reported at a place, and one of an entry at a
place of that entry (`Member.places`).
-/

namespace Phrasebook

/-! ## what a document contains -/

section contains

variable {root n v e : Node} {name : String} {m : Property} {span : Span} {ms : List Property}
  {ns : List Node}

/-- What is looked up is the value of a member. -/
theorem of_get?_eq_some (h : n.get? name = some v) :
    ∃ span ms m, n = .object span ms ∧ m ∈ ms ∧ m.name = name ∧ m.value = v := by
  obtain ⟨m, hm, rfl⟩ := Option.map_eq_some_iff.1 h
  have hname := List.find?_some hm
  simp only [beq_iff_eq] at hname
  have hmem := List.mem_of_find?_eq_some hm
  cases n with
  | object span ms => exact ⟨span, ms, m, rfl, hmem, hname, rfl⟩
  | _ => cases hmem

theorem contains_of_get? (h : n.get? name = some v) : n.Contains v := by
  obtain ⟨span, ms, m, rfl, hm, -, rfl⟩ := of_get?_eq_some h
  exact .member hm (.self _)

theorem contains_of_mem_elements (h : n.elements? = some ns) (he : e ∈ ns) : n.Contains e := by
  cases n with
  | array span =>
      cases h
      exact .element he (.self e)
  | _ => cases h

theorem of_mem_properties (h : m ∈ n.properties) :
    ∃ span ms, n = .object span ms ∧ m ∈ ms ∧ m.repeated = false := by
  obtain ⟨hm, hfirst⟩ := List.mem_filter.1 h
  rw [Bool.not_eq_true'] at hfirst
  cases n with
  | object span ms => exact ⟨span, ms, rfl, hm, hfirst⟩
  | _ => cases hm

theorem contains_value (hobject : root.Contains (.object span ms)) (hm : m ∈ ms) :
    root.Contains m.value :=
  hobject.trans (.member hm (.self _))

theorem contains_property (hn : root.Contains n) (hm : m ∈ n.properties) :
    root.Contains m.value := by
  obtain ⟨span, ms, rfl, hmem, -⟩ := of_mem_properties hm
  exact contains_value hn hmem

/-- The entries of a section are members of the object that the section is. -/
theorem of_mem_sectionEntries {entries : Section} (h : m ∈ sectionEntries root entries) :
    ∃ span ms, root.get? entries.name = some (.object span ms) ∧ m ∈ ms := by
  unfold sectionEntries at h
  split at h
  next node hnode =>
    obtain ⟨span, ms, rfl, hm, -⟩ := of_mem_properties h
    exact ⟨span, ms, (Option.filter_eq_some_iff.1 hnode).1, hm⟩
  next => cases h

/-! ## repeated members -/

theorem mem_repetitionsOfMembers :
    m ∈ repetitionsOfMembers ms ↔
      ∃ o ∈ ms, m = o ∧ o.repeated = true ∨ m ∈ o.value.repetitions := by
  induction ms with
  | nil => simp only [repetitionsOfMembers, List.not_mem_nil, false_and, exists_false]
  | cons o rest ih =>
      have hfirst : m ∈ (if o.repeated then [o] else []) ↔ m = o ∧ o.repeated = true := by
        cases o.repeated <;> simp
      simp only [repetitionsOfMembers, List.mem_append, hfirst, ih, List.mem_cons, or_and_right,
        exists_or, exists_eq_left]

theorem repetitionsOfElements_eq (ns : List Node) :
    repetitionsOfElements ns = ns.flatMap Node.repetitions := by
  induction ns with
  | nil => rfl
  | cons e rest ih => rw [repetitionsOfElements, ih, List.flatMap_cons]

theorem mem_repetitionsOfElements :
    m ∈ repetitionsOfElements ns ↔ ∃ e ∈ ns, m ∈ e.repetitions := by
  rw [repetitionsOfElements_eq, List.mem_flatMap]

/-- A member whose name an earlier one has is among the repetitions, wherever it stands. -/
theorem mem_repetitions_of_contains (h : root.Contains (.object span ms)) (hm : m ∈ ms)
    (hrepeated : m.repeated = true) : m ∈ root.repetitions := by
  generalize hobject : Node.object span ms = n at h
  induction h with
  | self =>
      rw [← hobject, Node.repetitions]
      exact mem_repetitionsOfMembers.2 ⟨m, hm, .inl ⟨rfl, hrepeated⟩⟩
  | member ho _ ih =>
      rw [Node.repetitions]
      exact mem_repetitionsOfMembers.2 ⟨_, ho, .inr (ih hobject)⟩
  | element he _ ih =>
      rw [Node.repetitions]
      exact mem_repetitionsOfElements.2 ⟨_, he, ih hobject⟩

/-- Repetitions are members of objects of the document. -/
theorem of_mem_repetitions (root : Node) (h : m ∈ root.repetitions) :
    ∃ span ms, root.Contains (.object span ms) ∧ m ∈ ms ∧ m.repeated = true := by
  induction root using Node.inductionOn with
  | object span ms ih =>
      rw [Node.repetitions] at h
      obtain ⟨o, ho, ⟨rfl, hrepeated⟩ | hin⟩ := mem_repetitionsOfMembers.1 h
      · exact ⟨span, ms, .self _, ho, hrepeated⟩
      · obtain ⟨inner, ns, hcontains, hm⟩ := ih o ho hin
        exact ⟨inner, ns, .member ho hcontains, hm⟩
  | array span ns ih =>
      rw [Node.repetitions] at h
      obtain ⟨e, he, hin⟩ := mem_repetitionsOfElements.1 h
      obtain ⟨inner, ms, hcontains, hm⟩ := ih e he hin
      exact ⟨inner, ms, .element he hcontains, hm⟩
  | _ => cases h

end contains

/-! ## the entries of a section -/

theorem RepetitionsMarked.of_append {ms rest : List Property} (h : RepetitionsMarked (ms ++ rest)) :
    RepetitionsMarked ms := by
  rintro before m behind rfl
  exact h before m (behind ++ rest) (by simp)

/-- Where repetitions are marked, the members without a mark are the first ones with their names. -/
theorem RepetitionsMarked.filter_eq {ms : List Property} (h : RepetitionsMarked ms) :
    ms.filter (!·.repeated) = distinctOn (·.name) ms := by
  induction ms using List.reverseRecOn with
  | nil => rfl
  | append_singleton front last ih =>
      rw [distinctOn_concat, List.filter_append, ih h.of_append, List.filter_cons, List.filter_nil,
        h front last [] rfl]
      cases front.any (·.name == last.name) <;> rfl

/-- The members of the object that a section is, of several with one name the first; none if the
section is no object. -/
def firstMembers (root : Node) (entries : Section) : List Property :=
  distinctOn (·.name) (((root.get? entries.name).bind Node.members?).getD [])

/-- The entries of a section of a document are its first members. -/
theorem sectionEntries_eq {text : String} {root : Node} (h : readDocument text = .ok root)
    (entries : Section) : sectionEntries root entries = firstMembers root entries := by
  unfold sectionEntries sectionOf? firstMembers
  cases hget : root.get? entries.name with
  | none => rfl
  | some node =>
      cases node with
      | object span ms => exact (repetitionsMarked_of_contains h (contains_of_get? hget)).filter_eq
      | _ => rfl

/-! ## places of a document -/

/-- A span of a document: that of a node, or that of a name in an object. -/
inductive Node.Place (root : Node) : Span → Prop where
  | node {n : Node} : root.Contains n → Place root n.span
  | name {span : Span} {ms : List Property} {m : Property} :
      root.Contains (.object span ms) → m ∈ ms → Place root m.nameSpan

section place

variable {root n : Node} {m : Property} {span place : Span} {ms : List Property}

/-- What is looked up in a node, or the node itself, is at a place. -/
theorem place_getD (h : root.Contains n) (name : String) :
    root.Place ((n.get? name).getD n).span := by
  cases hget : n.get? name with
  | none => exact .node h
  | some v => exact .node (h.trans (contains_of_get? hget))

/-- The places of an entry are places of the document. -/
theorem place_of_mem_places (h : root.Contains (.object span ms)) (hm : m ∈ ms)
    (hplace : place ∈ m.places) : root.Place place := by
  obtain rfl | rfl | ⟨p, hp, rfl⟩ := mem_places.1 hplace
  · exact .name h hm
  · exact .node (contains_value h hm)
  · exact .node (contains_property (contains_value h hm) hp)

theorem place_of_mem_sectionEntries {entries : Section} (hm : m ∈ sectionEntries root entries)
    (hplace : place ∈ m.places) : root.Place place := by
  obtain ⟨span, ms, hget, hmem⟩ := of_mem_sectionEntries hm
  exact place_of_mem_places (contains_of_get? hget) hmem hplace

end place

/-! ## the places of reports -/

section reports

variable {s : Sink} {entry : Property} {metadata : Metadata} {root : Node} {d : Diagnostic}

theorem exists_place_of_givenUp {α β : Type} {read : Node → Option α} {check : Check (Option β)}
    (h : GivenUp read entry check s) (hd : d ∈ reported check s) :
    ∃ place ∈ entry.places, ∃ problem, d = s.locate place problem := by
  obtain ⟨place, hplace, problem, hrep, -⟩ := h.reported
  rw [hrep, List.mem_singleton] at hd
  exact ⟨place, hplace, problem, hd⟩

theorem exists_place_of_mem_digitReports {identifier : Identifier}
    (hd : d ∈ digitReports entry identifier s) :
    ∃ place ∈ entry.places, ∃ problem, d = s.locate place problem := by
  unfold digitReports at hd
  split at hd
  · exact ⟨_, nameSpan_mem_places, _, List.mem_singleton.1 hd⟩
  · cases hd

/-- Every report of a phrase is at a place of its entry. -/
theorem exists_place_validatePhrase (hd : d ∈ reported (validatePhrase entry metadata) s) :
    ∃ place ∈ entry.places, ∃ problem, d = s.locate place problem := by
  obtain hgiven | ⟨identifier, -, -, -, hrep⟩ := validatePhrase_cases entry metadata s
  · exact exists_place_of_givenUp hgiven hd
  · rw [hrep, List.mem_append, mem_reported_phraseOf] at hd
    obtain hdigit | ⟨_, _, _, _, rfl⟩ | ⟨t, ht, _, rfl⟩ | ⟨t, ht, harguments⟩ := hd
    · exact exists_place_of_mem_digitReports hdigit
    · exact ⟨_, span_mem_places, _, rfl⟩
    · exact ⟨_, span_translation_mem_places (List.mem_filter.1 ht).1, _, rfl⟩
    · obtain ⟨_, _, rfl⟩ | ⟨_, _, rfl⟩ := mem_reported_reportArguments.1 harguments <;>
        exact ⟨_, span_translation_mem_places (List.mem_filter.1 ht).1, _, rfl⟩

/-- Every report of a noun is at a place of its entry. -/
theorem exists_place_validateNoun (hd : d ∈ reported (validateNoun entry metadata) s) :
    ∃ place ∈ entry.places, ∃ problem, d = s.locate place problem := by
  obtain hgiven | ⟨identifier, -, -, -, hrep⟩ := validateNoun_cases entry metadata s
  · exact exists_place_of_givenUp hgiven hd
  · rw [hrep, List.mem_append, mem_reported_nounOf] at hd
    obtain hdigit | ⟨_, _, _, rfl⟩ | ⟨t, ht, _, rfl⟩ | ⟨t, ht, _, rfl⟩ := hd
    · exact exists_place_of_mem_digitReports hdigit
    · exact ⟨_, span_mem_places, _, rfl⟩
    · exact ⟨_, span_translation_mem_places ht, _, rfl⟩
    · exact ⟨_, span_translation_mem_places ht, _, rfl⟩

/-- A collision is reported at the name of the noun. -/
theorem of_mem_nounCollisions {options : Options} {phrases : List Phrase} {noun? : Option Noun}
    (hd : d ∈ nounCollisions options phrases entry s noun?) :
    ∃ key phrase, d = s.locate entry.nameSpan (.phraseNounDuplicate key phrase) := by
  unfold nounCollisions at hd
  split at hd
  · cases hd
  · split at hd
    · unfold collisionReports at hd
      split at hd
      · exact ⟨_, _, List.mem_singleton.1 hd⟩
      · cases hd
    · cases hd

theorem exists_place_versionOf {node : Node} (hnode : root.Contains node)
    (hd : d ∈ reported (versionOf node) s) :
    ∃ place, root.Place place ∧ d = s.locate place .noVersionFound := by
  obtain hnil | hone := versionOf_cases node s
  · rw [hnil] at hd
    cases hd
  · rw [hone, List.mem_singleton] at hd
    exact ⟨_, place_getD hnode "version", hd⟩

/-- What the check of the metadata reports is at places of the document, and of one of four
kinds. -/
theorem exists_place_validateMetadata (hd : d ∈ reported (validateMetadata root) s) :
    ∃ place problem, root.Place place ∧ d = s.locate place problem ∧
      problem.code ∈ [Code.noMetadata, .noVersionFound, .noLanguagesFound, .invalidLanguage] := by
  have hroot := Node.Contains.self root
  obtain ⟨-, hrep⟩ | ⟨node, hnode, -, hrep⟩ | ⟨node, elements, hdeclares, -, hrep⟩ :=
    validateMetadata_cases root s
  · rw [hrep, List.mem_singleton] at hd
    exact ⟨_, _, place_getD hroot "metadata", hd, by decide⟩
  · have hcontains := contains_of_get? hnode
    rw [hrep, List.mem_append, List.mem_singleton] at hd
    obtain hversion | rfl := hd
    · obtain ⟨place, hplace, rfl⟩ := exists_place_versionOf hcontains hversion
      exact ⟨place, _, hplace, rfl, by decide⟩
    · exact ⟨_, _, place_getD hcontains "languages", rfl, by decide⟩
  · have hcontains := contains_of_get? hdeclares.metadata
    rw [hrep, List.mem_append, List.mem_flatMap] at hd
    obtain hversion | ⟨element, helement, hlanguage⟩ := hd
    · obtain ⟨place, hplace, rfl⟩ := exists_place_versionOf hcontains hversion
      exact ⟨place, _, hplace, rfl, by decide⟩
    · obtain ⟨list, hlist, helements⟩ := Option.bind_eq_some_iff.1 hdeclares.languages
      have hinner := hcontains.trans
        ((contains_of_get? hlist).trans (contains_of_mem_elements helements helement))
      obtain ⟨_, _, _, _, _, hnil⟩ | ⟨reason, -, hone⟩ := languageOf_cases element s
      · rw [hnil] at hlanguage
        cases hlanguage
      · rw [hone, List.mem_singleton] at hlanguage
        exact ⟨_, _, .node hinner, hlanguage, by simp [Problem.code]⟩

/-- **Every diagnostic of a document is at one of its places.** -/
theorem exists_place_of_document {text fileId : String} {options : Options}
    (h : readDocument text = .ok root) (hd : d ∈ (validate text fileId options).diagnostics) :
    ∃ place problem, root.Place place ∧ d = (Sink.ofString text fileId).locate place problem := by
  have hroot := Node.Contains.self root
  have hhead : d ∈ headReports options root (.ofString text fileId) →
      ∃ place problem, root.Place place ∧ d = (Sink.ofString text fileId).locate place problem := by
    intro hd
    obtain hrepetition | hmetadata := List.mem_append.1 hd
    · obtain ⟨-, m, hm, rfl⟩ := mem_repetitionReports.1 hrepetition
      obtain ⟨span, ms, hobject, hmem, -⟩ := of_mem_repetitions root hm
      exact ⟨_, _, .name hobject hmem, rfl⟩
    · obtain ⟨place, problem, hplace, rfl, -⟩ := exists_place_validateMetadata hmetadata
      exact ⟨place, problem, hplace, rfl⟩
  cases hm : returned (validateMetadata root) (.ofString text fileId) with
  | none =>
      rw [validate_of_unusable h hm] at hd
      exact hhead hd
  | some metadata =>
      rw [validate_of_usable h hm] at hd
      obtain hd | hd := List.mem_append.1 hd
      · exact hhead hd
      · obtain hphrase | hnoun := List.mem_append.1 hd
        · obtain ⟨-, rfl⟩ | ⟨entry, hentry, hin⟩ := mem_phraseReports.1 hphrase
          · exact ⟨_, _, place_getD hroot _, rfl⟩
          · obtain ⟨place, hplace, problem, rfl⟩ := exists_place_validatePhrase hin
            exact ⟨place, problem, place_of_mem_sectionEntries hentry hplace, rfl⟩
        · obtain ⟨-, -, rfl⟩ | ⟨entry, hentry, hin | hcollision⟩ := mem_nounReports.1 hnoun
          · exact ⟨_, _, place_getD hroot _, rfl⟩
          · obtain ⟨place, hplace, problem, rfl⟩ := exists_place_validateNoun hin
            exact ⟨place, problem, place_of_mem_sectionEntries hentry hplace, rfl⟩
          · obtain ⟨key, phrase, rfl⟩ := of_mem_nounCollisions hcollision
            exact ⟨_, _, place_of_mem_sectionEntries hentry nameSpan_mem_places, rfl⟩

end reports

end Phrasebook
