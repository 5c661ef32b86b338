import Mathlib.Data.List.Chain
import Mathlib.Data.String.Basic
import Phrasebook.Proofs.Lines
import Phrasebook.Proofs.Stages

/-!
# Phrasebook.Proofs.MetadataVerdict

The metadata of a document, read off its tree.

A check of the metadata goes through them once and reports on its way.  What it returns and reports
in the end can be said without it: the section is the first member `metadata` (`Node.metadata?`),
the declared elements and the version are the first members `languages` and `version` of it
(`Node.languages?`, `Node.version?`), and each element on its own is a code of the table or refused
(`Node.code?`).

The table is searched by halving.  That finds all codes of the table and no others, since the table
is in ascending order (`isListed_iff`).
-/

namespace Phrasebook

/-! ## the table of codes -/

namespace Language

set_option maxRecDepth 4000 in
theorem isChain_codes : codes.toList.IsChain (· < ·) := by decide +kernel

set_option maxRecDepth 4000 in
theorem empty_notMem_codes : "" ∉ codes := by decide +kernel

/-- The table is in strictly ascending order. -/
theorem codes_lt_codes {i j : Nat} (hij : i < j) (hj : j < codes.size) : codes[i] < codes[j] :=
  List.pairwise_iff_getElem.1 (List.isChain_iff_pairwise.1 isChain_codes) i j (hij.trans hj) hj hij

/-- A code that is in the table is found where it stands. -/
theorem bisect_codes {n : Nat} (hn : n < codes.size) :
    bisect (fun i => codes.getD i "" < codes[n]) 0 codes.size = n := by
  refine bisect_eq (Nat.zero_le n) hn.le (fun i hi => decide_eq_true ?_) fun i hni hi =>
    decide_eq_false ?_
  · rw [← Array.getElem_eq_getD (h := hi.trans hn)]
    exact codes_lt_codes hi hn
  · rw [← Array.getElem_eq_getD (h := hi)]
    obtain rfl | hlt := hni.eq_or_lt
    · exact lt_irrefl _
    · exact (codes_lt_codes hlt hi).asymm

/-- Halving finds all codes of the table, and no others. -/
theorem isListed_iff {code : String} : isListed code = true ↔ code ∈ codes := by
  refine ⟨mem_codes_of_isListed, fun hmem => ?_⟩
  obtain ⟨n, hn, rfl⟩ := Array.mem_iff_getElem.1 hmem
  rw [isListed, bisect_codes hn, Array.getElem?_eq_getElem hn, beq_self_eq_true]

/-- Why a text is no code of the table. -/
def refusal (code : String) : Error := if normalize code = "" then .empty else .unknown code

theorem validate_eq (code : String) :
    validate code =
      if normalize code ∈ codes then .ok (normalize code) else .error (refusal code) := by
  by_cases hempty : normalize code = ""
  · rw [validate, if_pos hempty, refusal, if_pos hempty, hempty, if_neg empty_notMem_codes]
  · simp only [validate, if_neg hempty, refusal, isListed_iff]

end Language

/-! ## what the tree says -/

/-- The section of the metadata: the first member with this name, if it is an object. -/
def Node.metadata? (root : Node) : Option Node := (root.get? "metadata").filter Node.isObject

/-- The elements that declare languages: those of the first member with this name, if it is an
array. -/
def Node.languages? (metadata : Node) : Option (List Node) :=
  (metadata.get? "languages").bind Node.elements?

/-- The version: the first member with this name as it stands, if it is a text with a character that
is not blank. -/
def Node.version? (metadata : Node) : Option String :=
  ((metadata.get? "version").bind Node.text?).filter (·.toList.any (!Text.isBlank ·))

/-- The code of the table that an element declares: the normal form of its text, if that is in the
table. -/
def Node.code? (element : Node) : Option String :=
  (element.text?.map Language.normalize).filter (· ∈ Language.codes)

/-- What is reported for the version of the metadata. -/
def versionReports (metadata : Node) (s : Sink) : List Diagnostic :=
  match metadata.version? with
  | none => [s.locate ((metadata.get? "version").getD metadata).span .noVersionFound]
  | some _ => []

/-- The reason for which an element is refused. -/
def refusalOf (element : Node) (s : Sink) : String :=
  match element.text? with
  | none =>
    "'" ++ String.ofList (s.index.slice element.span.offset element.span.length) ++
      "' is not a string"
  | some code => (Language.refusal code).message

/-- The elements that declare no code of the table. -/
def refused (elements : List Node) : List Node := elements.filter (·.code?.isNone)

/-- What is reported for the elements that declare languages. -/
def languageReports (elements : List Node) (s : Sink) : List Diagnostic :=
  (refused elements).map fun element =>
    s.locate element.span (.invalidLanguage (refusalOf element s))

/-! ## what the check does -/

section parts

variable (s : Sink)

theorem versionOf_parts (metadata : Node) :
    returned (versionOf metadata) s = metadata.version?.getD "" ∧
      reported (versionOf metadata) s = versionReports metadata s := by
  unfold versionOf versionReports Node.version?
  cases metadata.get? "version" with
  | none => exact ⟨rfl, rfl⟩
  | some node =>
      dsimp only [Option.bind_some]
      cases node.text? with
      | none => exact ⟨rfl, rfl⟩
      | some version =>
          simp only [Option.filter_some, ← List.not_all_eq_any_not]
          cases hblank : version.toList.all Text.isBlank <;> simp only [Text.blank, hblank] <;>
            exact ⟨rfl, rfl⟩

theorem languageOf_parts (element : Node) :
    returned (languageOf element) s = element.code? ∧
      reported (languageOf element) s =
        if element.code?.isNone then
          [s.locate element.span (.invalidLanguage (refusalOf element s))]
        else [] := by
  unfold languageOf refusalOf Node.code?
  cases element.text? with
  | none => exact ⟨rfl, rfl⟩
  | some code =>
      rw [Option.map_some]
      by_cases hmem : Language.normalize code ∈ Language.codes
      · simp only [Language.validate_eq, if_pos hmem, Option.filter_some, decide_eq_true hmem]
        exact ⟨rfl, rfl⟩
      · simp only [Language.validate_eq, if_neg hmem, Option.filter_some, decide_eq_false hmem]
        exact ⟨rfl, rfl⟩

/-- Each element that is refused is reported, and no other. -/
theorem flatMap_languageOf (elements : List Node) :
    (elements.flatMap fun element => reported (languageOf element) s) =
      languageReports elements s := by
  induction elements with
  | nil => rfl
  | cons element rest ih =>
      rw [List.flatMap_cons, ih, (languageOf_parts s element).2]
      cases hcode : element.code? <;> simp [languageReports, refused, hcode]

theorem metadataOf_parts (metadata : Node) :
    returned (metadataOf metadata) s =
        (metadata.languages?.map fun elements =>
          ⟨elements.filterMap Node.code?, metadata.version?.getD ""⟩) ∧
      reported (metadataOf metadata) s = versionReports metadata s ++
        match metadata.languages? with
        | none => [s.locate ((metadata.get? "languages").getD metadata).span .noLanguagesFound]
        | some elements => languageReports elements s := by
  obtain ⟨hversion, hreports⟩ := versionOf_parts s metadata
  rw [Node.languages?, ← hversion, ← hreports]
  obtain ⟨hnone, hret, hrep⟩ | ⟨elements, hsome, hret, hrep⟩ := metadataOf_cases metadata s
  · rw [hret, hrep, hnone]
    exact ⟨rfl, rfl⟩
  · simp only [hret, hrep, hsome, flatMap_languageOf, (languageOf_parts s _).1, Option.map_some,
      and_self]

end parts

/-- Each element is accepted or refused. -/
theorem length_accepted_add_length_refused (elements : List Node) :
    (elements.filterMap Node.code?).length + (refused elements).length = elements.length := by
  rw [refused, ← List.countP_eq_length_filter, List.length_filterMap_eq_countP,
    List.length_eq_countP_add_countP (fun element : Node => element.code?.isSome)]
  simp only [Bool.not_eq_true, Option.isSome_eq_false_iff, Bool.decide_eq_true]

/-- **Metadata are judged by what their tree says**, on a sink about which nothing has been said
yet.  They are given up where the section is no object or its languages no array, with one last
report at what stands in the place of the section or of the languages.  Otherwise the languages are
the codes that the elements declare, in order and with repeats, and each other element has one
report; the version is the text in its place, and one that is missing or blank is empty and has one
report.  A code is found by halving just when it is in the table. -/
theorem metadata_judged_by_tree (root : Node) (text fileId : String) :
    let sink := Sink.ofString text fileId
    let result := ((validateMetadata root).run sink).1
    let reports := ((validateMetadata root).run sink).2.diagnostics
    (result = none ↔ root.metadata?.bind Node.languages? = none) ∧
      (match root.metadata? with
        | none => reports = [sink.locate ((root.get? "metadata").getD root).span .noMetadata]
        | some metadata =>
          match metadata.languages? with
          | none =>
            reports = versionReports metadata sink ++
              [sink.locate ((metadata.get? "languages").getD metadata).span .noLanguagesFound]
          | some elements =>
            result = some ⟨elements.filterMap Node.code?, metadata.version?.getD ""⟩ ∧
              reports = versionReports metadata sink ++ languageReports elements sink ∧
              (elements.filterMap Node.code?).length + (refused elements).length =
                elements.length) ∧
      ∀ code, Language.isListed code = true ↔ code ∈ Language.codes := by
  intro sink result reports
  rw [← and_assoc]
  refine ⟨?_, fun _ => Language.isListed_iff⟩
  have hresult : result = returned (validateMetadata root) sink := rfl
  have hreports : reports = reported (validateMetadata root) sink := rfl
  rw [hresult, hreports, validateMetadata_eq, ← Node.metadata?]
  cases root.metadata? with
  | none => exact ⟨iff_of_true rfl rfl, rfl⟩
  | some metadata =>
      obtain ⟨hret, hrep⟩ := metadataOf_parts sink metadata
      dsimp only [Option.bind_some]
      rw [hret, hrep]
      cases metadata.languages? with
      | none => exact ⟨iff_of_true rfl rfl, rfl⟩
      | some elements =>
          exact ⟨iff_of_false (Option.some_ne_none _) (Option.some_ne_none _), rfl, rfl,
            length_accepted_add_length_refused elements⟩

example :
    [.string ⟨0, 4⟩ "NL", .null ⟨5, 4⟩, .string ⟨10, 8⟩ "cheese", .string ⟨19, 5⟩ " nl"].filterMap
      Node.code? = ["nl", "nl"] := by decide +kernel

end Phrasebook
