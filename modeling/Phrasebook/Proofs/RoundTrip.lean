import Phrasebook.Outcome.Json
import Phrasebook.Proofs.JsonText
import Phrasebook.Proofs.Keys
import Phrasebook.Proofs.TranslationMap

/-!
# Phrasebook.Proofs.RoundTrip

Outcomes survive being written as JSON.

Each structure is written by one function and read by another one.  What the second makes of what
the first writes is stated in one form for all of them (`Json.Gives`), and proved from the leaves
up: texts, numbers and names, lists and maps of these, and then the structures, whose fields are
found by their names (`allFields?_ofMembers`).  Together with the round trip of JSON texts this
gives the one of outcomes.
-/

namespace Phrasebook

namespace Json

/-! ## fields -/

section fields

variable {α β : Type}

/-- Where each item gives something, reading all of them gives all of it. -/
theorem mapM_map_eq_some {γ : Type} {f : β → Option γ} {g : α → β} {r : α → γ} {items : List α}
    (h : ∀ a ∈ items, f (g a) = some (r a)) : (items.map g).mapM f = some (items.map r) := by
  induction items with
  | nil => rfl
  | cons a rest ih =>
      obtain ⟨ha, hrest⟩ := List.forall_mem_cons.1 h
      simp [ha, ih hrest]

/-- Where each item is read back from what is written for it, all of them are. -/
theorem mapM_map_eq_self {f : β → Option α} {g : α → β} {items : List α}
    (h : ∀ a ∈ items, f (g a) = some a) : (items.map g).mapM f = some items := by
  rw [mapM_map_eq_some h, List.map_id']

variable {members : List (String × Json)}

theorem single?_eq_some (hnodup : (members.map (·.1)).Nodup)
    {m : String × Json} (hm : m ∈ members) :
    single? (members.map fun m => (some m.1, m.2)) m.1 = some (some m.2) := by
  have hsame : ((·.1 == some m.1) ∘ fun m : String × Json => (some m.1, m.2)) = (·.1 == m.1) := by
    funext other
    simp
  have hfilter : (members.map fun m => (some m.1, m.2)).filter (·.1 == some m.1) =
      [(some m.1, m.2)] := by
    rw [List.filter_map, hsame, filter_key_eq hnodup, (find?_key_eq_some_iff hnodup).2 ⟨hm, rfl⟩]
    rfl
  rw [single?, hfilter]

/-- The fields of a structure are found by their names. -/
theorem allFields?_ofMembers (members : List (String × Json)) (hnodup : (members.map (·.1)).Nodup) :
    (ofMembers members).allFields? (members.map (·.1)) = some (members.map (·.2)) := by
  have hnames :
      (members.map fun m => ((some m.1, m.2) : Option String × Json)).all (·.1.isSome) = true := by
    simp
  have hfields : (ofMembers members).fields? (members.map (·.1)) =
      some (members.map fun m => some m.2) := by
    rw [ofMembers, fields?, if_pos hnames]
    exact mapM_map_eq_some fun m hm => single?_eq_some hnodup hm
  rw [allFields?, hfields]
  exact mapM_map_eq_some fun m _ => rfl

end fields

/-! ## what is written and read -/

/-- A value that may be printed, and that `read` makes `a` of. -/
structure Gives {α : Type} (read : Json → Option α) (j : Json) (a : α) : Prop where
  wellSpelled : j.WellSpelled
  read_eq : read j = some a

section gives

variable {α : Type} {read : Json → Option α} {write : α → Json} {items : List α}

theorem wellSpelled_ofMembers {members : List (String × Json)}
    (h : ∀ m ∈ members, m.2.WellSpelled) : (ofMembers members).WellSpelled :=
  .object (List.forall_mem_map.2 h)

theorem gives_ofString (text : String) : Gives text? (ofString text) text := ⟨.string _, rfl⟩

theorem gives_ofNat {n : Nat} (h : n ≤ largestWord) : Gives natural? (ofNat n) n where
  wellSpelled := .number (JsonToken.spellsNumber_toString n)
  read_eq := by
    have hlist : (toString n).toList = Nat.toDigits 10 n := Nat.toList_repr
    have hdigits : (Nat.toDigits 10 n).all Char.isDigit = true :=
      List.all_eq_true.2 fun _ hd => Nat.isDigit_of_mem_toDigits (by decide) (by decide) hd
    have hvalue : Nat.ofDigitChars 10 (Nat.toDigits 10 n) 0 = n := Nat.ofDigitChars_ten_toDigits
    rw [ofNat, natural?, hlist, if_pos hdigits]
    show (if Nat.ofDigitChars 10 (Nat.toDigits 10 n) 0 ≤ largestWord then
      some (Nat.ofDigitChars 10 (Nat.toDigits 10 n) 0) else none) = some n
    rw [hvalue, if_pos h]

/-- A list is read where its items are. -/
theorem gives_list (h : ∀ a ∈ items, Gives read (write a) a) :
    Gives (list? read) (.array (items.map write)) items where
  wellSpelled := .array (List.forall_mem_map.2 fun a ha => (h a ha).wellSpelled)
  read_eq := mapM_map_eq_self fun a ha => (h a ha).read_eq

theorem gives_ofStrings (texts : List String) : Gives strings? (ofStrings texts) texts :=
  gives_list fun text _ => gives_ofString text

/-- A name is read as what it is the name of. -/
theorem gives_name {ofName? : String → Option α} {name : α → String} {a : α}
    (h : ofName? (name a) = some a) : Gives (choice? ofName?) (ofString (name a)) a :=
  ⟨.string _, h⟩

end gives

end Json

open Json

/-! ## books -/

theorem Translations.gives (t : Translations) : Gives Translations.ofJson? t.toJson t where
  wellSpelled := wellSpelled_ofMembers (List.forall_mem_map.2 fun _ _ => .string _)
  read_eq := by
    have hentries : t.toJson.entries? = some t.entries := by
      rw [toJson, ofMembers, List.map_map, entries?]
      exact mapM_map_eq_self fun _ _ => rfl
    rw [Translations.ofJson?, hentries, Option.map_some, ofList_entries]

theorem Metadata.gives (m : Metadata) : Gives Metadata.ofJson? m.toJson m := by
  have hlanguages := gives_ofStrings m.languages
  have hversion := gives_ofString m.version
  have hfields : m.toJson.allFields? ["languages", "version"] =
      some [.ofStrings m.languages, .ofString m.version] := allFields?_ofMembers _ (by simp)
  constructor
  · exact wellSpelled_ofMembers (by simp [hlanguages.wellSpelled, hversion.wellSpelled])
  · simp [Metadata.ofJson?, hfields, hlanguages.read_eq, hversion.read_eq]

theorem Phrase.gives (p : Phrase) : Gives Phrase.ofJson? p.toJson p := by
  have hkey := gives_ofString p.key
  have htranslations := p.translations.gives
  have harguments := gives_ofStrings p.arguments
  have hfields : p.toJson.allFields? ["key", "translations", "arguments"] =
      some [.ofString p.key, p.translations.toJson, .ofStrings p.arguments] :=
    allFields?_ofMembers _ (by simp)
  constructor
  · exact wellSpelled_ofMembers
      (by simp [hkey.wellSpelled, htranslations.wellSpelled, harguments.wellSpelled])
  · simp [Phrase.ofJson?, hfields, hkey.read_eq, htranslations.read_eq, harguments.read_eq]

theorem Noun.gives (n : Noun) : Gives Noun.ofJson? n.toJson n := by
  have hkey := gives_ofString n.key
  have hsingular := n.singular.gives
  have hplural := n.plural.gives
  have hfields : n.toJson.allFields? ["key", "singular", "plural"] =
      some [.ofString n.key, n.singular.toJson, n.plural.toJson] := allFields?_ofMembers _ (by simp)
  constructor
  · exact wellSpelled_ofMembers
      (by simp [hkey.wellSpelled, hsingular.wellSpelled, hplural.wellSpelled])
  · simp [Noun.ofJson?, hfields, hkey.read_eq, hsingular.read_eq, hplural.read_eq]

theorem Book.gives (b : Book) : Gives Book.ofJson? b.toJson b := by
  have hmetadata := b.metadata.gives
  have hphrases := gives_list fun p (_ : p ∈ b.phrases) => p.gives
  have hnouns := gives_list fun n (_ : n ∈ b.nouns) => n.gives
  have hfields : b.toJson.allFields? ["metadata", "phrases", "nouns"] =
      some [b.metadata.toJson, .array (b.phrases.map Phrase.toJson),
        .array (b.nouns.map Noun.toJson)] :=
    allFields?_ofMembers _ (by simp)
  constructor
  · exact wellSpelled_ofMembers
      (by simp [hmetadata.wellSpelled, hphrases.wellSpelled, hnouns.wellSpelled])
  · simp [Book.ofJson?, hfields, hmetadata.read_eq, hphrases.read_eq, hnouns.read_eq]

/-! ## diagnostics -/

theorem Code.ofName?_name (c : Code) : Code.ofName? c.name = some c := by
  cases c <;> rfl

theorem Severity.ofName?_name (s : Severity) : Severity.ofName? s.name = some s := by
  cases s <;> rfl

/-- The numbers of a diagnostic have at most 64 bits. -/
structure Diagnostic.WordSized (d : Diagnostic) : Prop where
  line : d.line ≤ largestWord
  column : d.column ≤ largestWord
  length : d.length ≤ largestWord
  offset : d.offset ≤ largestWord
  byteLength : d.byteLength ≤ largestWord

theorem Diagnostic.gives {d : Diagnostic} (h : d.WordSized) :
    Gives Diagnostic.ofJson? d.toJson d := by
  have hcode := gives_name d.code.ofName?_name
  have hseverity := gives_name d.severity.ofName?_name
  have hmessage := gives_ofString d.message
  have hfileId := gives_ofString d.fileId
  have hline := gives_ofNat h.line
  have hcolumn := gives_ofNat h.column
  have hlength := gives_ofNat h.length
  have hoffset := gives_ofNat h.offset
  have hbyteLength := gives_ofNat h.byteLength
  have hfields :
      d.toJson.allFields? ["code", "severity", "message", "file_id", "line", "column", "length",
        "offset", "byte_length"] =
      some [.ofString d.code.name, .ofString d.severity.name, .ofString d.message,
        .ofString d.fileId, .ofNat d.line, .ofNat d.column, .ofNat d.length, .ofNat d.offset,
        .ofNat d.byteLength] :=
    allFields?_ofMembers _ (by simp)
  constructor
  · exact wellSpelled_ofMembers (by
      simp [hcode.wellSpelled, hseverity.wellSpelled, hmessage.wellSpelled, hfileId.wellSpelled,
        hline.wellSpelled, hcolumn.wellSpelled, hlength.wellSpelled, hoffset.wellSpelled,
        hbyteLength.wellSpelled])
  · simp [Diagnostic.ofJson?, hfields, hcode.read_eq, hseverity.read_eq, hmessage.read_eq,
      hfileId.read_eq, hline.read_eq, hcolumn.read_eq, hlength.read_eq,
      hoffset.read_eq, hbyteLength.read_eq]

/-! ## outcomes -/

/-- The numbers of all diagnostics have at most 64 bits. -/
def Outcome.WordSized (o : Outcome) : Prop := ∀ d ∈ o.diagnostics, d.WordSized

theorem Outcome.gives {o : Outcome} (h : o.WordSized) : Gives Outcome.ofJson? o.toJson o := by
  have hdata := o.data.gives
  have hdiagnostics := gives_list fun d (hd : d ∈ o.diagnostics) => Diagnostic.gives (h d hd)
  have hfields : o.toJson.allFields? ["data", "diagnostics"] =
      some [o.data.toJson, .array (o.diagnostics.map Diagnostic.toJson)] :=
    allFields?_ofMembers _ (by simp)
  constructor
  · exact wellSpelled_ofMembers (by simp [hdata.wellSpelled, hdiagnostics.wellSpelled])
  · simp [Outcome.ofJson?, hfields, hdata.read_eq, hdiagnostics.read_eq]

theorem ofJsonText?_toJsonText {o : Outcome} (h : o.WordSized) :
    Outcome.ofJsonText? o.toJsonText = some o := by
  have hgives := Outcome.gives h
  rw [Outcome.ofJsonText?, Outcome.toJsonText, ofText?_pretty hgives.wellSpelled]
  exact hgives.read_eq

/-- **Outcomes survive being written as JSON**: the JSON text of an outcome is read as this outcome,
so that no other outcome has the same text. -/
theorem outcomes_survive_json (o : Outcome) (h : o.WordSized) :
    Outcome.ofJsonText? o.toJsonText = some o ∧
      ∀ other : Outcome, other.WordSized → other.toJsonText = o.toJsonText → other = o := by
  have hread := ofJsonText?_toJsonText h
  refine ⟨hread, fun other hother htext => ?_⟩
  have hother := ofJsonText?_toJsonText hother
  rw [htext, hread] at hother
  exact (Option.some.inj hother).symm

/-- An outcome with texts that need escapes, empty maps and lists, and the least and the largest
numbers. -/
def escapingOutcome : Outcome where
  data :=
    { metadata := ⟨["en", ""], "1 \"\\/\""⟩
      phrases := [⟨"Go", .ofList [("en", "\x00\x1f\n\t\x08"), ("", "Ü \u2028 😀")], []⟩]
      nouns := [⟨"", .empty, .ofList [("en", "\x7bn\x7d,[]")]⟩] }
  diagnostics := [⟨.noMetadata, .warning, "\x7f", "a\\b", 0, 0xFFFFFFFFFFFFFFFF, 10, 907, 1⟩]

theorem outcomes_survive_json_escapingOutcome :
    escapingOutcome.WordSized ∧
      Outcome.ofJsonText? escapingOutcome.toJsonText = some escapingOutcome ∧
      ∀ other : Outcome, other.WordSized → other.toJsonText = escapingOutcome.toJsonText →
        other = escapingOutcome := by
  have hwords : escapingOutcome.WordSized :=
    List.forall_mem_singleton.2 ⟨by decide, by decide, by decide, by decide, by decide⟩
  exact ⟨hwords, outcomes_survive_json escapingOutcome hwords⟩

end Phrasebook
