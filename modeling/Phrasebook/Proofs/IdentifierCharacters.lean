import Phrasebook.Proofs.Consistency
import Phrasebook.Proofs.UpperCase

/-!
# Phrasebook.Proofs.IdentifierCharacters

The characters of identifiers.

An identifier is not empty and does not start with a numeral.  Its characters are letters, numerals
and underscores, unless a marked letter of the sentence is put in upper case: the upper-case form is
taken over as it is, with the combining marks in it.
-/

namespace Phrasebook

open Text

namespace Identifier

/-! ## the characters kept -/

/-- The characters of a sentence that are put in upper case: of those kept, the first behind each
space or closing brace. -/
def capitals (capital inside : Bool) : List Char → List Char
  | [] => []
  | c :: rest =>
    if c = '{' then capitals capital true rest
    else if c = '}' then capitals true false rest
    else if c = ' ' then capitals true inside rest
    else if isAlphanumeric c && !inside then
      (if capital then [c] else []) ++ capitals false inside rest
    else capitals capital inside rest

/-- Whether a character may stand in an identifier. -/
def Allowed (c : Char) : Prop := isAlphanumeric c = true ∨ c = '_'

instance (c : Char) : Decidable (Allowed c) :=
  inferInstanceAs (Decidable (isAlphanumeric c = true ∨ c = '_'))

/-- A character that is kept leaves allowed characters, unless it is put in upper case and
marked. -/
theorem allowed_kept_iff {c : Char} {capital : Bool} (hc : isAlphanumeric c = true) :
    (∀ d ∈ if capital then upper c else [c], Allowed d) ↔
      ∀ m ∈ if capital then [c] else [], m.toNat ∉ markedLetters := by
  cases capital with
  | false => simp [Allowed, hc]
  | true =>
      simp only [if_true, List.forall_mem_singleton]
      constructor
      · intro hall hmark
        obtain ⟨d, hd, hfalse, hne⟩ := exists_mark_of_mem_markedLetters hmark
        obtain htrue | heq := hall d hd
        · rw [htrue] at hfalse
          cases hfalse
        · exact hne heq
      · exact fun hmark d hd => .inl (alphanumeric_of_mem_upper hc hmark hd)

/-- What is kept of a sentence is allowed just if none of the characters put in upper case is
marked. -/
theorem allowed_keep_iff (capital inside : Bool) (s : List Char) :
    (∀ d ∈ keep capital inside s, Allowed d) ↔
      ∀ c ∈ capitals capital inside s, c.toNat ∉ markedLetters := by
  induction s generalizing capital inside with
  | nil => simp [keep, capitals]
  | cons c rest ih =>
      rw [keep, capitals]
      by_cases hopen : c = '{'
      · rw [if_pos hopen, if_pos hopen]
        exact ih capital true
      rw [if_neg hopen, if_neg hopen]
      by_cases hclose : c = '}'
      · rw [if_pos hclose, if_pos hclose, List.forall_mem_cons]
        exact (and_iff_right (.inr rfl)).trans (ih true false)
      rw [if_neg hclose, if_neg hclose]
      by_cases hspace : c = ' '
      · rw [if_pos hspace, if_pos hspace]
        exact ih true inside
      rw [if_neg hspace, if_neg hspace]
      by_cases hkeep : (isAlphanumeric c && !inside) = true
      · rw [if_pos hkeep, if_pos hkeep, List.forall_mem_append, List.forall_mem_append]
        exact and_congr (allowed_kept_iff (Bool.and_eq_true_iff.1 hkeep).1) (ih false inside)
      · rw [if_neg hkeep, if_neg hkeep]
        exact ih capital inside

/-! ## identifiers -/

/-- What the identifier made from a sentence is made of. -/
structure MadeOf (identifier sentence : String) : Prop where
  nonempty : identifier ≠ ""
  start : ∀ c ∈ identifier.toList.head?, isNumeral c = false
  characters : (∀ c ∈ identifier.toList, Allowed c) ↔
    ∀ c ∈ capitals false false sentence.toList, c.toNat ∉ markedLetters

theorem madeOf_of_ofSentence {sentence : String} {identifier : Identifier}
    (h : ofSentence sentence = .ok identifier) : MadeOf identifier.text sentence := by
  have hkept := allowed_keep_iff false false sentence.toList
  rw [ofSentence] at h
  split at h
  · cases h
  · split at h
    · cases h
    · next c rest heq =>
      rw [heq] at hkept
      split at h
      next hnumeral =>
        cases h
        constructor
        · simp
        · simp only [String.toList_ofList, List.head?_cons, Option.mem_some_iff]
          rintro d rfl
          decide +kernel
        · rw [String.toList_ofList, List.forall_mem_cons]
          exact (and_iff_right (.inl (by decide +kernel))).trans hkept
      next hnumeral =>
        cases h
        constructor
        · simp
        · simp only [String.toList_ofList, List.head?_cons, Option.mem_some_iff]
          rintro d rfl
          exact Bool.eq_false_iff.2 hnumeral
        · rw [String.toList_ofList]
          exact hkept

/-- Not all identifiers have allowed characters only: the second letter of `a ǰ` has no capital of
its own, and its upper-case form ends with a combining caron. -/
theorem not_allowed_of_ofSentence :
    ¬ ∀ sentence identifier, ofSentence sentence = .ok identifier →
      ∀ c ∈ identifier.text.toList, Allowed c := by
  intro hall
  have hid : ofSentence "a ǰ" = .ok ⟨"aJ\u030c", false⟩ := by rfl
  have hcaron : ¬ Allowed '\u030c' := by decide +kernel
  exact hcaron (hall _ _ hid _ (by decide +kernel))

end Identifier

/-! ## keys -/

/-- What the identifier of a text is made of, and the keys of the phrases and nouns in it: the key
of a phrase is made from its English sentence, that of a noun from the name of its entry. -/
theorem keys_madeOf (text fileId : String) (options : Options) :
    (∀ identifier, Identifier.ofSentence text = .ok identifier →
      Identifier.MadeOf identifier.text text) ∧
    (∀ phrase ∈ (validate text fileId options).data.phrases,
      ∃ sentence, phrase.translations.get? Language.english = some sentence ∧
        Identifier.MadeOf phrase.key sentence) ∧
    ∀ noun ∈ (validate text fileId options).data.nouns,
      ∃ root node entry, readDocument text = .ok root ∧ sectionOf? root .nouns = some node ∧
        entry ∈ node.properties ∧ Identifier.MadeOf noun.key entry.name := by
  refine ⟨fun _ h => Identifier.madeOf_of_ofSentence h, ?_⟩
  obtain hempty | ⟨root, metadata, hroot, _, hdata⟩ := data_validate text fileId options
  · rw [hempty]
    exact ⟨fun _ h => absurd h List.not_mem_nil, fun _ h => absurd h List.not_mem_nil⟩
  · rw [hdata]
    constructor
    · intro phrase hphrase
      obtain ⟨_, entry, _, _, hentry⟩ := of_mem_phrasesOf hphrase
      obtain ⟨sentence, henglish, ⟨identifier, hid, hkey⟩, _⟩ :=
        (consistent_validatePhrase hentry).sentence
      exact ⟨sentence, henglish, hkey ▸ Identifier.madeOf_of_ofSentence hid⟩
    · intro noun hnoun
      obtain ⟨node, entry, hnode, hmem, hentry⟩ := of_mem_nounsOf hnoun
      obtain ⟨_, identifier, hid, rfl⟩ := of_returned_validateNoun hentry
      exact ⟨root, node, entry, hroot, hnode, hmem, Identifier.madeOf_of_ofSentence hid⟩

theorem keys_madeOf_sharpS : Identifier.ofSentence "1 ß" = .ok ⟨"d1SS", true⟩ ∧
    Identifier.MadeOf "d1SS" "1 ß" := by
  have hid : Identifier.ofSentence "1 ß" = .ok ⟨"d1SS", true⟩ := by rfl
  exact ⟨hid, (keys_madeOf "1 ß" "book" {}).1 _ hid⟩

end Phrasebook
