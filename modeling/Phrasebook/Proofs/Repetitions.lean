import Phrasebook.Proofs.Settings
import Phrasebook.Proofs.Stages

/-!
# Phrasebook.Proofs.Repetitions

Names that repeat within an object are reported once each, in the order of the text.

`Node.occurrences` lists the members of all objects of a tree, wherever they stand, each with the
members before it in its object.  It looks at names alone and at no mark.

1. The list has every member once: the names in it stand one behind the other in the text
   (`pairwise_occurrences`).
2. The members that a document marks are those of the list whose name one of the members before them
   has (`repetitions_eq`).
-/

namespace Phrasebook

/-- A member of an object, with the members that stand before it in the object. -/
structure Occurrence where
  before : List Property
  member : Property

/-- An earlier member of the same object has the same name. -/
def Occurrence.Repeats (o : Occurrence) : Prop := ∃ earlier ∈ o.before, earlier.name = o.member.name

instance (o : Occurrence) : Decidable o.Repeats :=
  inferInstanceAs (Decidable (∃ earlier ∈ o.before, _))

mutual

/-- The members of all objects of a node, in the order of the text. -/
def Node.occurrences : Node → List Occurrence
  | .object _ members => occurrencesOfMembers [] members
  | .array _ elements => occurrencesOfElements elements
  | _ => []

/-- Members that stand behind others in their object, and the members below their values. -/
def occurrencesOfMembers (before : List Property) : List Property → List Occurrence
  | [] => []
  | m :: rest => ⟨before, m⟩ :: (m.value.occurrences ++ occurrencesOfMembers (before ++ [m]) rest)

/-- The members below the elements of an array. -/
def occurrencesOfElements : List Node → List Occurrence
  | [] => []
  | n :: rest => n.occurrences ++ occurrencesOfElements rest

end

/-! ## the list has all members -/

section membership

variable {root : Node} {o : Occurrence} {before ms : List Property} {ns : List Node}

theorem occurrencesOfElements_eq (ns : List Node) :
    occurrencesOfElements ns = ns.flatMap Node.occurrences := by
  induction ns with
  | nil => rfl
  | cons n rest ih => rw [occurrencesOfElements, ih, List.flatMap_cons]

/-- A member that stands in a list or below it is one of the list with those before it, or stands
below the value of one. -/
theorem mem_occurrencesOfMembers :
    o ∈ occurrencesOfMembers before ms ↔
      (∃ front behind, ms = front ++ o.member :: behind ∧ o.before = before ++ front) ∨
      ∃ m ∈ ms, o ∈ m.value.occurrences := by
  induction ms generalizing before with
  | nil => simp [occurrencesOfMembers]
  | cons m rest ih =>
      simp only [occurrencesOfMembers, List.mem_cons, List.mem_append, ih, exists_eq_or_imp]
      constructor
      · rintro (rfl | hin | ⟨front, behind, rfl, hbefore⟩ | hrest)
        · exact .inl ⟨[], rest, rfl, (List.append_nil before).symm⟩
        · exact .inr (.inl hin)
        · exact .inl ⟨m :: front, behind, rfl, by simp [hbefore]⟩
        · exact .inr (.inr hrest)
      · rintro (⟨front, behind, heq, hbefore⟩ | hin | hrest)
        · obtain ⟨rfl, hmember⟩ | ⟨front, rfl, rfl⟩ := List.cons_eq_append_iff.1 heq
          · obtain ⟨rfl, -⟩ := List.cons.inj hmember
            exact .inl (by rw [← List.append_nil before, ← hbefore])
          · exact .inr (.inr (.inl ⟨front, behind, rfl, by simp [hbefore]⟩))
        · exact .inr (.inl hin)
        · exact .inr (.inr (.inr hrest))

/-- Every member of an object in a tree is listed. -/
theorem mem_occurrences_of_contains {span : Span} {behind : List Property}
    (h : root.Contains (.object span (o.before ++ o.member :: behind))) : o ∈ root.occurrences := by
  generalize hobject : Node.object span (o.before ++ o.member :: behind) = n at h
  induction h with
  | self =>
      rw [← hobject, Node.occurrences]
      exact mem_occurrencesOfMembers.2 (.inl ⟨o.before, behind, rfl, rfl⟩)
  | member hm _ ih =>
      rw [Node.occurrences]
      exact mem_occurrencesOfMembers.2 (.inr ⟨_, hm, ih hobject⟩)
  | element he _ ih =>
      rw [Node.occurrences, occurrencesOfElements_eq]
      exact List.mem_flatMap.2 ⟨_, he, ih hobject⟩

/-- What is listed is a member of an object in the tree. -/
theorem exists_contains_of_mem_occurrences (root : Node) (h : o ∈ root.occurrences) :
    ∃ span behind, root.Contains (.object span (o.before ++ o.member :: behind)) := by
  induction root using Node.inductionOn with
  | object span ms ih =>
      rw [Node.occurrences] at h
      obtain ⟨front, behind, rfl, hbefore⟩ | ⟨m, hm, hin⟩ := mem_occurrencesOfMembers.1 h
      · rw [List.nil_append] at hbefore
        exact ⟨span, behind, hbefore ▸ .self _⟩
      · obtain ⟨inner, behind, hcontains⟩ := ih m hm hin
        exact ⟨inner, behind, .member hm hcontains⟩
  | array span ns ih =>
      rw [Node.occurrences, occurrencesOfElements_eq] at h
      obtain ⟨e, he, hin⟩ := List.mem_flatMap.1 h
      obtain ⟨inner, behind, hcontains⟩ := ih e he hin
      exact ⟨inner, behind, .element he hcontains⟩
  | _ => cases h

theorem mem_occurrences_iff :
    o ∈ root.occurrences ↔
      ∃ span behind, root.Contains (.object span (o.before ++ o.member :: behind)) :=
  ⟨exists_contains_of_mem_occurrences root, fun ⟨_, _, h⟩ => mem_occurrences_of_contains h⟩

end membership

/-! ## the list is in the order of the text -/

/-- The names of some occurrences stand one behind the other. -/
def NamesAscend (os : List Occurrence) : Prop :=
  os.Pairwise (·.member.nameSpan.offset < ·.member.nameSpan.offset)

section order

variable {o : Occurrence} {before ms : List Property}

/-- The name of a member stands before its value, and the names below the value stand inside it. -/
structure Member.Nests (m : Property) : Prop where
  offset_lt : m.nameSpan.offset < m.value.span.stop
  inside : ∀ o ∈ m.value.occurrences,
    m.nameSpan.offset < o.member.nameSpan.offset ∧ o.member.nameSpan.offset < m.value.span.stop

theorem exists_le_of_mem_occurrencesOfMembers (hms : ∀ m ∈ ms, m.Nests)
    (ho : o ∈ occurrencesOfMembers before ms) :
    ∃ m ∈ ms, m.nameSpan.offset ≤ o.member.nameSpan.offset := by
  obtain ⟨front, behind, rfl, -⟩ | ⟨m, hm, hin⟩ := mem_occurrencesOfMembers.1 ho
  · exact ⟨o.member, by simp, Nat.le_refl _⟩
  · exact ⟨m, hm, Nat.le_of_lt ((hms m hm).inside o hin).1⟩

/-- Where members stand one behind the other, so do all names in them. -/
theorem namesAscend_occurrencesOfMembers (hms : ∀ m ∈ ms, m.Nests)
    (hvalues : ∀ m ∈ ms, NamesAscend m.value.occurrences)
    (hordered : ms.Pairwise (·.value.span.stop ≤ ·.nameSpan.offset)) :
    NamesAscend (occurrencesOfMembers before ms) := by
  induction ms generalizing before with
  | nil => exact List.Pairwise.nil
  | cons m rest ih =>
      obtain ⟨hm, hrest⟩ := List.forall_mem_cons.1 hms
      obtain ⟨hvalue, hvalues⟩ := List.forall_mem_cons.1 hvalues
      obtain ⟨hbehind, hordered⟩ := List.pairwise_cons.1 hordered
      have hafter : ∀ o ∈ occurrencesOfMembers (before ++ [m]) rest,
          m.value.span.stop ≤ o.member.nameSpan.offset := by
        intro o ho
        obtain ⟨m', hm', hle⟩ := exists_le_of_mem_occurrencesOfMembers hrest ho
        exact Nat.le_trans (hbehind m' hm') hle
      rw [occurrencesOfMembers]
      refine List.pairwise_cons.2 ⟨fun o ho => ?_, List.pairwise_append.2
        ⟨hvalue, ih hrest hvalues hordered, fun a ha b hb => ?_⟩⟩
      · obtain hin | ho := List.mem_append.1 ho
        · exact (hm.inside o hin).1
        · exact Nat.lt_of_lt_of_le hm.offset_lt (hafter o ho)
      · exact Nat.lt_of_lt_of_le (hm.inside a ha).2 (hafter b hb)

variable {text : String} {root n : Node} (h : readDocument text = .ok root)

include h

/-- The names in a node stand inside it. -/
theorem inside_of_mem_occurrences (hn : root.Contains n) (ho : o ∈ n.occurrences) :
    n.span.offset < o.member.nameSpan.offset ∧ o.member.nameSpan.offset < n.span.stop := by
  obtain ⟨span, behind, hcontains⟩ := mem_occurrences_iff.1 ho
  have hlaid := member_laidOut h (hn.trans hcontains) (m := o.member) (by simp)
  obtain ⟨hoffset, hstop⟩ := within_of_contains h hn hcontains
  have hname := o.member.nameSpan.offset_le_stop
  have hvalue := o.member.value.span.offset_le_stop
  have hmiddle := hlaid.name_stop_le
  exact ⟨Nat.lt_of_le_of_lt hoffset hlaid.offset_lt,
    Nat.lt_of_lt_of_le (Nat.lt_of_le_of_lt (by omega) hlaid.stop_lt) hstop⟩

theorem nests_of_contains {span : Span} (hn : root.Contains (.object span ms)) :
    ∀ m ∈ ms, m.Nests := by
  intro m hm
  have hlaid := member_laidOut h hn hm
  have hname := hlaid.name_length_pos
  have hstop : m.nameSpan.offset + m.nameSpan.length ≤ m.value.span.offset := hlaid.name_stop_le
  have hvalue := m.value.span.offset_le_stop
  refine ⟨by omega, fun o ho => ?_⟩
  have hinside := inside_of_mem_occurrences h (contains_value hn hm) ho
  exact ⟨by omega, hinside.2⟩

/-- The names in a document stand one behind the other in the order of the list. -/
theorem pairwise_occurrences (hn : root.Contains n) : NamesAscend n.occurrences := by
  induction n using Node.inductionOn with
  | object span ms ih =>
      exact namesAscend_occurrencesOfMembers (nests_of_contains h hn)
        (fun m hm => ih m hm (contains_value hn hm)) (pairwise_members h hn)
  | array span ns ih =>
      obtain ⟨-, hordered⟩ := (laidOut_of_contains h hn).elements ns rfl
      rw [Node.occurrences, occurrencesOfElements_eq]
      refine List.pairwise_flatMap.2 ⟨fun e he => ih e he (hn.trans (.element he (.self e))), ?_⟩
      refine hordered.imp_of_mem fun {a b} ha hb hle x hx y hy => ?_
      have hfront := inside_of_mem_occurrences h (hn.trans (.element ha (.self a))) hx
      have hbehind := inside_of_mem_occurrences h (hn.trans (.element hb (.self b))) hy
      omega
  | _ => exact List.Pairwise.nil

end order

/-! ## marks -/

/-- The members whose name an earlier member of the same object has, of all that stand in a node. -/
def Node.repeatedNames (n : Node) : List Property :=
  (n.occurrences.filter (·.Repeats)).map (·.member)

section marks

variable {ms : List Property} {ns : List Node}

/-- Where repetitions are marked in a list of members and below, the marks say what the names
say. -/
theorem repetitionsOfMembers_eq (before : List Property)
    (hmarked : RepetitionsMarked (before ++ ms))
    (hvalues : ∀ m ∈ ms, m.value.repetitions = m.value.repeatedNames) :
    repetitionsOfMembers ms =
      ((occurrencesOfMembers before ms).filter (·.Repeats)).map (·.member) := by
  induction ms generalizing before with
  | nil => rfl
  | cons m rest ih =>
      obtain ⟨hvalue, hvalues⟩ := List.forall_mem_cons.1 hvalues
      have hmark : decide (Occurrence.Repeats ⟨before, m⟩) = m.repeated := by
        rw [hmarked before m rest rfl, Bool.eq_iff_iff, decide_eq_true_iff]
        simp [Occurrence.Repeats]
      have hrest := ih (before ++ [m]) (by simpa using hmarked) hvalues
      rw [repetitionsOfMembers, occurrencesOfMembers, List.filter_cons, hmark, hvalue, hrest]
      cases m.repeated <;> simp [Node.repeatedNames]

/-- The members that a document marks are those whose name an earlier one has. -/
theorem repetitions_eq {text : String} {root n : Node} (h : readDocument text = .ok root)
    (hn : root.Contains n) : n.repetitions = n.repeatedNames := by
  induction n using Node.inductionOn with
  | object span ms ih =>
      exact repetitionsOfMembers_eq [] (repetitionsMarked_of_contains h hn)
        fun m hm => ih m hm (contains_value hn hm)
  | array span ns ih =>
      have helements : ∀ e ∈ ns, e.repetitions = e.repeatedNames :=
        fun e he => ih e he (hn.trans (.element he (.self e)))
      rw [Node.repetitions, Node.repeatedNames, Node.occurrences, occurrencesOfElements_eq,
        repetitionsOfElements_eq, List.filter_flatMap, List.map_flatMap]
      exact List.flatMap_congr helements
  | _ => rfl

end marks

/-! ## the report -/

/-- The diagnostic of a repeated name: it has the offset and the length of the name. -/
structure TellsRepetition (s : Sink) (o : Occurrence) (d : Diagnostic) : Prop where
  eq_locate : d = s.locate o.member.nameSpan (.duplicateKey o.member.name)
  offset : d.offset = o.member.nameSpan.offset
  byteLength : d.byteLength = o.member.nameSpan.length

section report

variable {text : String} {root : Node} {options : Options}

/-- Where repeated names are tolerated, none is reported. -/
theorem ofKind_duplicateKey_tolerant (text fileId : String) (options : Options) :
    ofKind .duplicateKey
      (validate text fileId { options with duplicateKeys := .firstWins }).diagnostics = [] := by
  refine ofKind_eq_nil (codes_validate text fileId _) fun hmem => ?_
  have hreject := (options_of_mem_letters _ _).1 hmem
  simp at hreject

/-- Where repeated names are rejected, what is reported about names are the repetitions of the
document. -/
theorem ofKind_duplicateKey_reject (h : readDocument text = .ok root) (fileId : String)
    (hreject : options.duplicateKeys = .reject) :
    ofKind .duplicateKey (validate text fileId options).diagnostics =
      root.repetitions.map fun m =>
        (Sink.ofString text fileId).locate m.nameSpan (.duplicateKey m.name) := by
  have hsplit := diagnostics_reject h fileId options
  rw [← hreject] at hsplit
  rw [hsplit, ofKind_append, ofKind_duplicateKey_tolerant, List.append_nil]
  exact ofKind_map fun _ => rfl

/-- **Repeated names are reported completely, once each and in the order of the text**: where they
are rejected, the diagnostics about them are those of the members, at any depth, whose name an
earlier member of the same object has.  Each has the place of the name, and their offsets ascend. -/
theorem repetitions_reported_once {text : String} {root : Node} {options : Options}
    (h : readDocument text = .ok root) (hreject : options.duplicateKeys = .reject)
    (fileId : String) :
    let reports := ofKind .duplicateKey (validate text fileId options).diagnostics
    List.Forall₂ (TellsRepetition (.ofString text fileId))
      (root.occurrences.filter (·.Repeats)) reports ∧
      reports.Pairwise (·.offset < ·.offset) ∧
      NamesAscend root.occurrences ∧
      ∀ o, o ∈ root.occurrences ↔
        ∃ span behind, root.Contains (.object span (o.before ++ o.member :: behind)) := by
  intro reports
  have hreports : reports = (root.occurrences.filter (·.Repeats)).map fun o =>
      (Sink.ofString text fileId).locate o.member.nameSpan (.duplicateKey o.member.name) := by
    show ofKind _ _ = _
    rw [ofKind_duplicateKey_reject h fileId hreject, repetitions_eq h (.self root),
      Node.repeatedNames, List.map_map]
    rfl
  have hordered : NamesAscend root.occurrences := pairwise_occurrences h (.self root)
  refine ⟨?_, ?_, hordered, fun o => mem_occurrences_iff⟩
  · rw [hreports]
    exact List.forall₂_map_right_iff.2 (List.forall₂_same.2 fun o _ => ⟨rfl, rfl, rfl⟩)
  · rw [hreports]
    exact List.pairwise_map.2 (hordered.filter _)

/-- A text without metadata whose names repeat at two depths, in a shadowed member too, in different
ways of quoting. -/
def repeatingText : String :=
  "\x7ba:null,'a':\x7bb:[\x7bc:true,\"\\u0063\":false\x7d],b:null\x7d,\"a\":null\x7d"

/-- What `repeatingText` is read as. -/
def repeatingRoot : Node :=
  .object ⟨0, 58⟩
    [⟨"a", ⟨1, 1⟩, .null ⟨3, 4⟩, false⟩,
      ⟨"a", ⟨8, 3⟩,
        .object ⟨12, 36⟩
          [⟨"b", ⟨13, 1⟩,
              .array ⟨15, 25⟩
                [.object ⟨16, 23⟩
                  [⟨"c", ⟨17, 1⟩, .boolean ⟨19, 4⟩ true, false⟩,
                    ⟨"c", ⟨24, 8⟩, .boolean ⟨33, 5⟩ false, true⟩]],
              false⟩,
            ⟨"b", ⟨41, 1⟩, .null ⟨43, 4⟩, true⟩],
        true⟩,
      ⟨"a", ⟨49, 3⟩, .null ⟨53, 4⟩, true⟩]

theorem repetitions_reported_once_repeatingText :
    let outcome := validate repeatingText "book" { duplicateKeys := .reject }
    let reports := ofKind .duplicateKey outcome.diagnostics
    readDocument repeatingText = .ok repeatingRoot ∧
      List.Forall₂ (TellsRepetition (.ofString repeatingText "book"))
        (repeatingRoot.occurrences.filter (·.Repeats)) reports ∧
      reports.map (·.offset) = [8, 24, 41, 49] := by
  have hroot : readDocument repeatingText = .ok repeatingRoot := by
    set_option maxRecDepth 4000 in with_unfolding_all rfl
  exact ⟨hroot, (repetitions_reported_once hroot rfl "book").1, by decide +kernel⟩

end report

end Phrasebook
