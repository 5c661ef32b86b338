import Phrasebook.Proofs.Places

/-!
# Phrasebook.Proofs.Cancellation

What becomes of a check that has been cancelled before it starts.

1. A check that is not cancelled has an outcome: that of `validate`.
2. A cancelled check notices this before the first entry that it comes to.  If there is one, in
   either of the two sections, then the check ends there without an outcome, and what it has found
   is lost.
3. If there is none, then the check takes the same steps as one that is not cancelled
   (`checkSections_of_nil`), and so has the same outcome.
-/

namespace Phrasebook

/-! ## sections -/

section sections

variable {α : Type} {root node : Node} {entries : Section} {check : Property → Check (Option α)}
  {absent : Check (Option (List α))} {metadata : Metadata} {options : Options}

/-- The check of the entries of a section, or what is done where there is no such section. -/
def checkSection (cancel : Bool) (root : Node) (entries : Section)
    (check : Property → Check (Option α)) (absent : Check (Option (List α))) :
    Check (Option (List α)) :=
  match sectionOf? root entries with
  | some node => checkEntries cancel entries node check
  | none => absent

theorem checkPhrases_eq (cancel : Bool) (root : Node) (metadata : Metadata) :
    checkPhrases cancel root metadata =
      checkSection cancel root .phrases (checkPhrase metadata) (do
        reportNode (sectionPlace root .phrases) .noPhrasesFound
        pure (some [])) := rfl

theorem checkNouns_eq (options : Options) (cancel : Bool) (root : Node) (metadata : Metadata)
    (phrases : List Phrase) :
    checkNouns options cancel root metadata phrases =
      checkSection cancel root .nouns (checkNoun options metadata phrases) (do
        if options.missingNouns = .warn then reportNode (sectionPlace root .nouns) .noNounsFound
        pure (some [])) := rfl

/-- Without entries there is nothing to cancel. -/
theorem checkEntries_of_nil (h : node.properties = []) (cancel : Bool) :
    checkEntries cancel entries node check = checkEntries false entries node check := by
  simp [checkEntries, h]

/-- A cancelled check stops before the first entry. -/
theorem run_checkEntries_cancelled (h : node.properties ≠ []) (s : Sink) :
    (checkEntries true entries node check).run s = (none, s.extend [] [.cancelled entries]) := by
  have hcancel : (true && !node.properties.isEmpty) = true := by simp [h]
  rw [checkEntries, if_pos hcancel, run_bind, run_logEvent, run_pure]

theorem checkSection_of_nil (h : sectionEntries root entries = []) (cancel : Bool) :
    checkSection cancel root entries check absent =
      checkSection false root entries check absent := by
  unfold checkSection
  unfold sectionEntries at h
  cases hsection : sectionOf? root entries with
  | none => rfl
  | some node =>
      simp only [hsection] at h
      exact checkEntries_of_nil h cancel

theorem run_checkSection_cancelled (h : sectionEntries root entries ≠ []) (s : Sink) :
    (checkSection true root entries check absent).run s =
      (none, s.extend [] [.cancelled entries]) := by
  unfold checkSection
  unfold sectionEntries at h
  cases hsection : sectionOf? root entries with
  | none => simp [hsection] at h
  | some node =>
      simp only [hsection] at h
      exact run_checkEntries_cancelled h s

/-- Where both sections are without entries, cancelling changes nothing. -/
theorem checkSections_of_nil (h : ∀ entries, sectionEntries root entries = []) (cancel : Bool) :
    checkSections options cancel root metadata = checkSections options false root metadata := by
  have hphrases : checkPhrases cancel root metadata = checkPhrases false root metadata := by
    rw [checkPhrases_eq, checkPhrases_eq, checkSection_of_nil (h .phrases)]
  have hnouns : checkNouns options cancel root metadata =
      checkNouns options false root metadata := by
    funext phrases
    rw [checkNouns_eq, checkNouns_eq, checkSection_of_nil (h .nouns)]
  rw [checkSections, checkSections, hphrases, hnouns]

/-- Where one of the sections has entries, a cancelled check has no book. -/
theorem run_checkSections_cancelled (h : sectionEntries root entries ≠ []) (s : Sink) :
    ((checkSections options true root metadata).run s).1 = .error .cancelled := by
  rw [checkSections, run_bind]
  by_cases hphrases : sectionEntries root .phrases = []
  · -- the check comes as far as the nouns
    have hnouns : sectionEntries root .nouns ≠ [] := by
      cases entries with
      | phrases => exact absurd hphrases h
      | nouns => exact h
    rw [checkPhrases_eq, checkSection_of_nil hphrases, ← checkPhrases_eq, run_checkPhrases]
    simp only [run_bind, checkNouns_eq, run_checkSection_cancelled hnouns, run_pure]
  · simp only [checkPhrases_eq, run_checkSection_cancelled hphrases, run_pure]

end sections

/-! ## documents with entries -/

/-- One of the sections of a document is an object with a member. -/
def Node.HasEntries (root : Node) : Prop :=
  ∃ (entries : Section) (span : Span) (first : Property) (others : List Property),
    root.get? entries.name = some (.object span (first :: others))

/-- The check of a text comes to an entry: the text is a document that declares its languages, and
one of its sections has a member. -/
def ReachesEntry (text : String) : Prop :=
  ∃ root node elements, readDocument text = .ok root ∧ root.Declares node elements ∧ root.HasEntries

section reaches

variable {text : String} {root : Node} (h : readDocument text = .ok root)

include h

theorem sectionEntries_ne_nil_iff (entries : Section) :
    sectionEntries root entries ≠ [] ↔
      ∃ span first others, root.get? entries.name = some (.object span (first :: others)) := by
  rw [sectionEntries_eq h, firstMembers]
  cases hget : root.get? entries.name with
  | none => simp [distinctOn]
  | some node =>
      cases node with
      | object span ms => cases ms <;> simp [Node.members?, distinctOn]
      | _ => simp [Node.members?, distinctOn]

theorem hasEntries_iff : root.HasEntries ↔ ∃ entries, sectionEntries root entries ≠ [] := by
  simp only [Node.HasEntries, sectionEntries_ne_nil_iff h]

theorem reachesEntry_iff (fileId : String) :
    ReachesEntry text ↔
      (returned (validateMetadata root) (.ofString text fileId)).isSome = true ∧
      root.HasEntries := by
  constructor
  · rintro ⟨_, node, elements, hread, hdeclares, hentries⟩
    obtain rfl : root = _ := Except.ok.inj (h.symm.trans hread)
    obtain ⟨metadata, hm⟩ := exists_returned_of_declares hdeclares (.ofString text fileId)
    exact ⟨by simp [hm], hentries⟩
  · rintro ⟨hsome, hentries⟩
    obtain ⟨hnone, -⟩ | ⟨_, -, hnone, -⟩ | ⟨node, elements, hdeclares, -⟩ :=
      validateMetadata_cases root (.ofString text fileId)
    · simp [hnone] at hsome
    · simp [hnone] at hsome
    · exact ⟨root, node, elements, h, hdeclares, hentries⟩

end reaches

/-! ## outcomes -/

section outcome

variable {text fileId : String} {options : Options}

/-- A check that is not cancelled has an outcome. -/
theorem outcome_run (text fileId : String) (options : Options) :
    (run text fileId options false).outcome = .ok (validate text fileId options) := by
  unfold validate
  cases h : readDocument text with
  | error fault => rw [run_of_fault h]
  | ok root =>
      cases hm : returned (validateMetadata root) (.ofString text fileId) with
      | none => rw [run_of_unusable h hm]
      | some metadata => rw [run_of_usable h hm]

/-- A check that comes to an entry has no outcome if it is cancelled. -/
theorem outcome_run_cancelled (h : ReachesEntry text) :
    (run text fileId options true).outcome = .error .cancelled := by
  obtain ⟨root, node, elements, hread, hdeclares, hentries⟩ := h
  obtain ⟨metadata, hm⟩ := exists_returned_of_declares hdeclares (.ofString text fileId)
  obtain ⟨entries, hne⟩ := (hasEntries_iff hread).1 hentries
  have hbook : ((checkText text options true).run (.ofString text fileId)).1 =
      .error .cancelled := by
    rw [checkText_of_document hread, run_checkRoot, hm]
    exact run_checkSections_cancelled hne _
  show Except.map _ ((checkText text options true).run _).1 = _
  rw [hbook, Except.map]

/-- A check that comes to no entry does not notice that it is cancelled. -/
theorem run_of_not_reachesEntry (h : ¬ ReachesEntry text) :
    run text fileId options true = run text fileId options false := by
  cases hread : readDocument text with
  | error fault => rw [run_of_fault hread, run_of_fault hread]
  | ok root =>
      cases hm : returned (validateMetadata root) (.ofString text fileId) with
      | none => rw [run_of_unusable hread hm, run_of_unusable hread hm]
      | some metadata =>
          have hnil : ∀ entries, sectionEntries root entries = [] := by
            simpa [reachesEntry_iff hread fileId, hm, hasEntries_iff hread] using h
          rw [run_eq, run_eq, checkText_of_document hread, checkText_of_document hread,
            run_checkRoot, run_checkRoot, hm]
          simp only [checkSections_of_nil hnil]

end outcome

/-- **Cancelling is exact**: a check that is not cancelled has the outcome of `validate`; one that
is cancelled before it starts has none if it comes to an entry, and the same outcome if it does
not. -/
theorem cancelled_iff_reachesEntry (text fileId : String) (options : Options) :
    let outcome := validate text fileId options
    validateUnlessCancelled text fileId options false = .ok outcome ∧
      (validateUnlessCancelled text fileId options true = .error .cancelled ↔ ReachesEntry text) ∧
      (¬ ReachesEntry text → validateUnlessCancelled text fileId options true = .ok outcome) := by
  intro outcome
  have hrun : (run text fileId options false).outcome = .ok outcome :=
    outcome_run text fileId options
  have hcancelled : ¬ ReachesEntry text → (run text fileId options true).outcome = .ok outcome := by
    intro h
    rw [run_of_not_reachesEntry h, hrun]
  refine ⟨hrun, ⟨fun herror => ?_, outcome_run_cancelled⟩, hcancelled⟩
  by_contra h
  cases herror.symm.trans (hcancelled h)

end Phrasebook
