import Phrasebook.Proofs.Lockstep
import Phrasebook.Proofs.Places

/-!
# Phrasebook.Proofs.Settings

What the file id and the options of a check can change.

1. The file id is a label of diagnostics, and nothing else.
2. The options never change the book.  They decide about diagnostics of three kinds, and leave the
   others in their order.
3. Rejecting repeated names puts their diagnostics before all others.
-/

namespace Phrasebook

namespace Diagnostic

/-- A diagnostic without the name of its document. -/
def anonymous (d : Diagnostic) : Diagnostic := { d with fileId := "" }

/-- A diagnostic of a kind that the options decide about. -/
def optional (d : Diagnostic) : Bool :=
  d.code = .duplicateKey || d.code = .noNounsFound || d.code = .phraseNounDuplicate

@[simp] theorem optional_anonymous (d : Diagnostic) : d.anonymous.optional = d.optional := rfl

end Diagnostic

/-- The diagnostics that the options do not decide about. -/
def settled (ds : List Diagnostic) : List Diagnostic := ds.filter (!·.optional)

@[simp] theorem settled_append (ds es : List Diagnostic) :
    settled (ds ++ es) = settled ds ++ settled es :=
  List.filter_append ..

theorem settled_eq_nil {ds : List Diagnostic} (h : ∀ d ∈ ds, d.optional = true) : settled ds = [] :=
  List.filter_eq_nil_iff.2 fun d hd => by simp [h d hd]

theorem map_anonymous_settled (ds : List Diagnostic) :
    (settled ds).map (·.anonymous) = settled (ds.map (·.anonymous)) := by
  rw [settled, settled, List.filter_map]
  rfl

/-! ## the file id -/

/-- Sinks of one text that hold the same diagnostics, whatever the document is called. -/
def sameText : Likeness where
  spans := Eq
  nodes := Eq
  sinks x y := x.index = y.index ∧ x.diagnostics.map (·.anonymous) = y.diagnostics.map (·.anonymous)
  span h := congrArg Node.span h
  text? h := congrArg Node.text? h
  isObject h := congrArg Node.isObject h
  typeName h := congrArg Node.typeName h
  elements? {m n} h := by
    subst h
    cases m.elements? with
    | none => exact .none
    | some as => exact .some (List.forall₂_same.2 fun _ _ => rfl)
  properties h := by
    subst h
    exact List.forall₂_same.2 fun _ _ => ⟨rfl, rfl, rfl⟩
  report problem hs hspan := by
    subst hspan
    obtain ⟨hindex, hdiagnostics⟩ := hs
    refine ⟨hindex, ?_⟩
    simp only [Sink.diagnostics_extend, List.map_append, hdiagnostics, Sink.locate, hindex]
    rfl
  log es fs hs := by
    simp only [Sink.extend, List.append_nil]
    exact hs

theorem quotesAlike_sameText (as bs : List Node) : sameText.QuotesAlike as bs := by
  rintro a - b - rfl htext
  unfold languageOf
  rw [htext]
  refine Lockstep.bind_eq (fun x y hs => ⟨?_, hs⟩) fun _ => ?_
  · show String.ofList (x.index.slice _ _) = String.ofList (y.index.slice _ _)
    rw [hs.1]
  · exact (Likeness.parallel_reportNode rfl _).bind_eq fun _ => lockstep_pure rfl

theorem roots_sameText (root : Node) : sameText.Roots root root := by
  have hrel : ∀ n? : Option Node, Option.Rel Eq n? n? := fun n? => by
    cases n? with
    | none => exact .none
    | some n => exact .some rfl
  refine ⟨rfl, ?_, fun _ => hrel _, fun _ _ => quotesAlike_sameText _ _⟩
  cases root.get? "metadata" with
  | none => exact .none
  | some node => exact .some ⟨rfl, rfl, hrel _, hrel _⟩

/-- The file id labels the diagnostics, and has no influence beyond that. -/
theorem validate_fileId (text f f' : String) (options : Options) :
    (validate text f options).data = (validate text f' options).data ∧
      (validate text f options).diagnostics.map (·.anonymous) =
        (validate text f' options).diagnostics.map (·.anonymous) := by
  cases h : readDocument text with
  | error fault =>
      rw [validate_of_fault h, validate_of_fault h]
      exact ⟨rfl, rfl⟩
  | ok root =>
      have hparallel := Likeness.parallel_checkRoot options false (roots_sameText root)
        fun _ => List.forall₂_same.2 fun _ _ => ⟨rfl, rfl, rfl⟩
      have hsinks : sameText.sinks (.ofString text f) (.ofString text f') := ⟨rfl, rfl⟩
      obtain ⟨hdata, x, y, ⟨-, hdiagnostics⟩, hx, hy⟩ :=
        Likeness.outcomes_of_parallel h h hsinks hparallel
      rw [← hx, ← hy]
      exact ⟨hdata, hdiagnostics⟩

/-! ## the options -/

section options

variable {text f : String} {root : Node} {metadata : Metadata} {s : Sink}
  {options options' : Options}

theorem settled_repetitionReports (options : Options) (root : Node) (s : Sink) :
    settled (repetitionReports options root s) = [] := by
  refine settled_eq_nil fun d hd => ?_
  obtain ⟨-, m, -, rfl⟩ := mem_repetitionReports.1 hd
  rfl

theorem settled_nounCollisions (options : Options) (phrases : List Phrase) (entry : Property)
    (s : Sink) (noun? : Option Noun) :
    settled (nounCollisions options phrases entry s noun?) = [] := by
  refine settled_eq_nil fun d hd => ?_
  obtain ⟨key, phrase, rfl⟩ := of_mem_nounCollisions hd
  rfl

/-- What is reported for the section of nouns under any options: what the validators report. -/
theorem settled_nounReports (options : Options) (root : Node) (metadata : Metadata)
    (phrases : List Phrase) (s : Sink) :
    settled (nounReports options root metadata phrases s) =
      (sectionEntries root .nouns).flatMap fun entry =>
        settled (reported (validateNoun entry metadata) s) := by
  refine (filter_nounReports options root metadata phrases fun _ => rfl).trans
    (List.flatMap_congr fun entry _ => ?_)
  show settled (_ ++ _) = _
  rw [settled_append, settled_nounCollisions, List.append_nil]

/-- The options decide about diagnostics of three kinds, and about nothing else. -/
theorem validate_options (text f : String) (options options' : Options) :
    (validate text f options).data = (validate text f options').data ∧
      settled (validate text f options).diagnostics =
        settled (validate text f options').diagnostics := by
  cases h : readDocument text with
  | error fault =>
      rw [validate_of_fault h, validate_of_fault h]
      exact ⟨rfl, rfl⟩
  | ok root =>
      cases hm : returned (validateMetadata root) (.ofString text f) with
      | none =>
          rw [validate_of_unusable h hm, validate_of_unusable h hm]
          simp only [headReports, settled_append, settled_repetitionReports, and_self]
      | some metadata =>
          rw [validate_of_usable h hm, validate_of_usable h hm]
          simp only [headReports, sectionReports, settled_append, settled_repetitionReports,
            settled_nounReports, and_self]

/-- Rejecting repeated names puts their diagnostics before those that there are anyway. -/
theorem diagnostics_reject (h : readDocument text = .ok root) (f : String) (options : Options) :
    (validate text f { options with duplicateKeys := .reject }).diagnostics =
      (root.repetitions.map fun m =>
        (Sink.ofString text f).locate m.nameSpan (.duplicateKey m.name)) ++
        (validate text f { options with duplicateKeys := .firstWins }).diagnostics := by
  cases hm : returned (validateMetadata root) (.ofString text f) with
  | none =>
      rw [validate_of_unusable h hm, validate_of_unusable h hm]
      rfl
  | some metadata =>
      rw [validate_of_usable h hm, validate_of_usable h hm]
      simp only [headReports, List.append_assoc]
      rfl

end options

/-- **The book depends on the text alone**: neither the file id nor the options change it.  Of the
diagnostics, the file id is a label, and the options decide about three kinds; rejecting repeated
names puts a block of diagnostics before the others, if the text is a document. -/
theorem settings_never_change_book (text f f' : String) (options options' : Options) :
    (validate text f options).data = (validate text f' options').data ∧
      (settled (validate text f options).diagnostics).map (·.anonymous) =
        (settled (validate text f' options').diagnostics).map (·.anonymous) ∧
      let rejecting := (validate text f { options with duplicateKeys := .reject }).diagnostics
      let tolerant := (validate text f { options with duplicateKeys := .firstWins }).diagnostics
      (∀ root, readDocument text = .ok root →
        ∃ block : List Diagnostic, (∀ d ∈ block, d.code = .duplicateKey) ∧
          rejecting = block ++ tolerant) ∧
      (∀ fault, readDocument text = .error fault → rejecting = tolerant) := by
  obtain ⟨hdata, hlabel⟩ := validate_fileId text f f' options
  obtain ⟨hdata', hsettled⟩ := validate_options text f' options options'
  refine ⟨hdata.trans hdata', ?_, fun root h => ?_, fun fault h => ?_⟩
  · rw [← hsettled]
    rw [map_anonymous_settled, map_anonymous_settled, hlabel]
  · exact ⟨_, List.forall_mem_map.2 fun _ _ => rfl, diagnostics_reject h f options⟩
  · rw [validate_of_fault h, validate_of_fault h]

end Phrasebook
