import Phrasebook.Proofs.Blocks
import Phrasebook.Proofs.Consistency
import Phrasebook.Proofs.Segments
import Phrasebook.Proofs.UpperCase

/-!
# Phrasebook.Proofs.Underscores

The underscores of an identifier beside the placeholders of its sentence.

An identifier has one underscore for each closing brace of its sentence (`count_underscore`), and
nothing else leaves one.  A closing brace ends a placeholder just if some opening brace stands
behind the closing brace before it, so there are at most as many placeholders as underscores, and as
many just if every closing brace is preceded in this way (`length_placeholders_eq_iff`).
-/

namespace Phrasebook

open Text

/-! ## underscores -/

namespace Identifier

variable {sentence : String} {identifier : Identifier} {c : Char}

theorem underscore_notMem_kept (capital : Bool) (hc : isAlphanumeric c = true) :
    '_' ∉ if capital then upper c else [c] := by
  cases capital with
  | true => exact underscore_notMem_upper hc
  | false =>
      intro hmem
      rw [← List.mem_singleton.1 hmem] at hc
      exact absurd hc (by decide +kernel)

/-- An underscore is kept for each closing brace, and for nothing else. -/
theorem count_keep (capital inside : Bool) (s : List Char) :
    (keep capital inside s).count '_' = s.count '}' := by
  induction s generalizing capital inside with
  | nil => rfl
  | cons c s ih =>
      rw [keep]
      by_cases hopen : c = '{'
      · subst hopen
        rw [if_pos rfl, ih, List.count_cons_of_ne (by decide)]
      rw [if_neg hopen]
      by_cases hclose : c = '}'
      · subst hclose
        rw [if_pos rfl, List.count_cons_self, List.count_cons_self, ih]
      rw [if_neg hclose, List.count_cons_of_ne hclose]
      by_cases hspace : c = ' '
      · rw [if_pos hspace, ih]
      rw [if_neg hspace]
      split
      next hkeep =>
        have hnone := underscore_notMem_kept capital (Bool.and_eq_true_iff.1 hkeep).1
        rw [List.count_append, List.count_eq_zero.2 hnone, Nat.zero_add, ih]
      next => rw [ih]

/-- An identifier has an underscore for each closing brace of its sentence. -/
theorem count_underscore (h : ofSentence sentence = .ok identifier) :
    identifier.text.toList.count '_' = sentence.toList.count '}' := by
  obtain ⟨-, -, -, htext⟩ := ofSentence_eq_ok_iff.1 h
  rw [htext, List.count_append, count_keep]
  cases identifier.digitPrefixed <;> simp

end Identifier

/-! ## placeholders -/

/-- Every closing brace of a text has an opening one in front of it, behind the closing brace before
it. -/
def ClosesOpened (s : List Char) : Prop :=
  ∀ before behind, s = before ++ '}' :: behind → '{' ∈ before.rtakeWhile (· != '}')

/-- Texts whose braces come in pairs that are not nested. -/
inductive Paired : List Char → Prop where
  | plain {s : List Char} : Braceless s → Paired s
  | block {before name behind : List Char} : Braceless before → Braceless name → Paired behind →
      Paired (before ++ '{' :: (name ++ '}' :: behind))

section placeholders

variable {s before name behind : List Char} {c : Char}

theorem closesOpened_concat_iff :
    ClosesOpened (s ++ [c]) ↔ ClosesOpened s ∧ (c = '}' → '{' ∈ s.rtakeWhile (· != '}')) := by
  constructor
  · intro h
    refine ⟨fun before behind heq => h before (behind ++ [c]) (by simp [heq]), ?_⟩
    rintro rfl
    exact h s [] rfl
  · rintro ⟨h, hlast⟩ before behind heq
    obtain rfl | ⟨behind, d, rfl⟩ := List.eq_nil_or_concat' behind
    · obtain ⟨rfl, hc⟩ := List.append_inj' heq rfl
      exact hlast (List.singleton_inj.1 hc)
    · have hconcat : s ++ [c] = (before ++ '}' :: behind) ++ [d] := by simpa using heq
      exact h before behind (List.append_inj' hconcat rfl).1

/-- There are no more placeholders than closing braces, and as many just if each closing brace
closes what was opened behind the one before it. -/
theorem length_placeholders_eq_iff (s : List Char) :
    (placeholdersFrom none s).length ≤ s.count '}' ∧
      ((placeholdersFrom none s).length = s.count '}' ↔ ClosesOpened s) := by
  induction s using List.reverseRecOn with
  | nil => exact ⟨Nat.le_refl 0, iff_of_true rfl fun before behind h => by simp at h⟩
  | append_singleton s c ih =>
      obtain ⟨hle, hiff⟩ := ih
      rw [placeholdersFrom_concat, closesOpened_concat_iff, ← hiff, ← isSome_opened_iff,
        List.length_append, List.count_append]
      by_cases hclose : c = '}'
      · subst hclose
        cases opened s <;> simp <;> omega
      · simp [hclose, hle]

theorem placeholdersFrom_of_notMem (h : '}' ∉ s) : placeholdersFrom none s = [] := by
  have hle := (length_placeholders_eq_iff s).1
  rw [List.count_eq_zero.2 h] at hle
  exact List.eq_nil_of_length_eq_zero (Nat.le_zero.1 hle)

/-- A block behind a text without braces is the first placeholder, and nothing of it is open behind
it. -/
theorem placeholdersFrom_block (hbefore : Braceless before) (hname : Braceless name) :
    placeholdersFrom none (before ++ '{' :: (name ++ '}' :: behind)) =
      name :: placeholdersFrom none behind := by
  have hopened : opened (before ++ '{' :: name) = some name :=
    opened_eq_some_iff.2 ⟨before, rfl, hname⟩
  have hclosed : opened (before ++ '{' :: name ++ ['}']) = none := opened_concat
  have hnone : '}' ∉ before ++ '{' :: name := by simp [hbefore.notMem, hname.notMem]
  rw [← append_close, List.append_cons (before ++ '{' :: name), placeholdersFrom_append, ← opened,
    hclosed, placeholdersFrom_concat, if_pos rfl, hopened, placeholdersFrom_of_notMem hnone]
  rfl

/-- Where braces are paired, each closing one ends a placeholder. -/
theorem length_placeholders_of_paired (h : Paired s) :
    (placeholdersFrom none s).length = s.count '}' := by
  induction h with
  | plain hs =>
      rw [placeholdersFrom_of_notMem hs.notMem.2, List.count_eq_zero.2 hs.notMem.2, List.length_nil]
  | block hbefore hname _ ih =>
      rw [placeholdersFrom_block hbefore hname, List.length_cons, ih]
      simp [List.count_append, List.count_eq_zero.2 hbefore.notMem.2,
        List.count_eq_zero.2 hname.notMem.2]

end placeholders

/-! ## identifiers and placeholders of one sentence -/

theorem length_placeholders (sentence : String) :
    (placeholders sentence).length = (placeholdersFrom none sentence.toList).length :=
  List.length_map _

theorem consistent_of_mem_phrases {text fileId : String} {options : Options} {phrase : Phrase}
    (h : phrase ∈ (validate text fileId options).data.phrases) : phrase.Consistent := by
  obtain hempty | ⟨root, metadata, -, -, hdata⟩ := data_validate text fileId options
  · rw [hempty] at h
    exact absurd h List.not_mem_nil
  · rw [hdata] at h
    obtain ⟨_, entry, -, -, hentry⟩ := of_mem_phrasesOf h
    exact consistent_validatePhrase hentry

/-- **Underscores match placeholders**, in every sentence that an identifier can be made from.

1. The identifier has as many underscores as the sentence has closing braces.
2. The sentence has at most as many placeholders, and as many just if each of its closing braces has
   an opening one in front of it, behind the closing brace before it.
3. Where the braces of the English sentence of a phrase come in pairs that are not nested, the key
   of the phrase has one underscore for each argument. -/
theorem underscores_match_placeholders {sentence : String} {identifier : Identifier}
    (h : Identifier.ofSentence sentence = .ok identifier) :
    identifier.text.toList.count '_' = sentence.toList.count '}' ∧
    (placeholders sentence).length ≤ identifier.text.toList.count '_' ∧
    ((placeholders sentence).length = identifier.text.toList.count '_' ↔
      ∀ before behind, sentence.toList = before ++ '}' :: behind →
        '{' ∈ before.rtakeWhile (· != '}')) ∧
    (Paired sentence.toList →
      ∀ text fileId options, ∀ phrase ∈ (validate text fileId options).data.phrases,
      phrase.translations.get? Language.english = some sentence →
        phrase.key.toList.count '_' = phrase.arguments.length) := by
  have hcount := Identifier.count_underscore h
  obtain ⟨hle, hiff⟩ := length_placeholders_eq_iff sentence.toList
  rw [hcount, length_placeholders]
  refine ⟨rfl, hle, hiff, fun hpaired text fileId options phrase hphrase henglish => ?_⟩
  obtain ⟨other, hother, ⟨key, hkey, hkeytext⟩, harguments⟩ :=
    (consistent_of_mem_phrases hphrase).sentence
  obtain rfl : other = sentence := Option.some.inj (hother.symm.trans henglish)
  rw [← hkeytext, harguments, Identifier.count_underscore hkey, length_placeholders,
    length_placeholders_of_paired hpaired]

/-- A document with one phrase, whose sentence starts with a numeral and has a space in a
placeholder. -/
def pairedText : String :=
  "\x7bmetadata:\x7blanguages:['en']\x7d,phrases:\x7b'1 \x7bä ö\x7d to \x7bb\x7d':\x7b\x7d\x7d\x7d"

/-- The English sentence of the phrase in `pairedText`. -/
def pairedSentence : String := "1 \x7bä ö\x7d to \x7bb\x7d"

/-- The phrase in `pairedText`. -/
def pairedPhrase : Phrase := ⟨"d1_To_", .ofList [("en", pairedSentence)], ["ä ö", "b"]⟩

theorem paired_pairedSentence : Paired pairedSentence.toList := by
  show Paired ("1 ".toList ++ '{' :: ("ä ö".toList ++ '}' ::
      (" to ".toList ++ '{' :: (['b'] ++ '}' :: []))))
  exact .block (by decide) (by decide) (.block (by decide) (by decide) (.plain (by decide)))

theorem underscores_match_placeholders_pairedText :
    Identifier.ofSentence pairedSentence = .ok ⟨"d1_To_", true⟩ ∧ Paired pairedSentence.toList ∧
      pairedPhrase ∈ (validate pairedText "book" {}).data.phrases ∧
      pairedPhrase.translations.get? Language.english = some pairedSentence ∧
      pairedPhrase.key.toList.count '_' = pairedPhrase.arguments.length := by
  have hid : Identifier.ofSentence pairedSentence = .ok ⟨"d1_To_", true⟩ := by
    with_unfolding_all rfl
  have hphrase : pairedPhrase ∈ (validate pairedText "book" {}).data.phrases := by decide +kernel
  have henglish : pairedPhrase.translations.get? Language.english = some pairedSentence := by
    decide +kernel
  obtain ⟨-, -, -, hbook⟩ := underscores_match_placeholders hid
  exact ⟨hid, paired_pairedSentence, hphrase, henglish,
    hbook paired_pairedSentence pairedText "book" {} pairedPhrase hphrase henglish⟩

end Phrasebook
