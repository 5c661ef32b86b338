import Phrasebook.Identifier

/-!
# Phrasebook.Proofs.Segments

Identifiers, segment by segment.

The closing braces of a sentence divide it into segments, and the spaces of a segment divide it into
words:

1. a word holds the letters and numerals that stand in front of the first opening brace of its
   segment (`words`);
2. every word but the first of a segment starts with a capital, and behind a closing brace the first
   one does, too (`segmentText`);
3. the segments are put together with underscores between them (`joinSegments`, `ofSegments`).

`Identifier.keep` reads a sentence once, with two flags.  What it keeps is what the segments give
(`keep_eq`): between two braces the flags tell how the segment that is being read goes on.
-/

namespace Phrasebook.Identifier

open Text

/-! ## the definition by segments -/

/-- A word with its first character in upper case. -/
def capitalize : List Char → List Char
  | [] => []
  | c :: rest => upper c ++ rest

/-- Words in one, with a capital for each but the first, and for the first if `capital` asks for
it. -/
def joinWords (capital : Bool) : List (List Char) → List Char
  | [] => []
  | first :: rest => (if capital then capitalize first else first) ++ rest.flatMap capitalize

/-- The words of a segment: of what stands in front of the first opening brace, the letters and
numerals between any two spaces. -/
def words (segment : List Char) : List (List Char) :=
  ((segment.takeWhile (· != '{')).splitOn ' ').map (·.filter isAlphanumeric)

/-- What a segment gives for an identifier. -/
def segmentText (capital : Bool) (segment : List Char) : List Char :=
  joinWords capital (words segment)

/-- What segments give together: an underscore for each closing brace, and a capital behind it. -/
def joinSegments : List (List Char) → List Char
  | [] => []
  | first :: rest =>
    segmentText false first ++ rest.flatMap fun segment => '_' :: segmentText true segment

/-- What a sentence gives for an identifier, segment by segment. -/
def ofSegments (s : List Char) : List Char := joinSegments (s.splitOn '}')

/-! ## one character more in front -/

section step

variable {c : Char} {capital inside : Bool} {segment first : List Char} {rest : List (List Char)}

theorem exists_words_eq (segment : List Char) : ∃ first rest, words segment = first :: rest :=
  List.exists_cons_of_ne_nil fun hnil => List.splitOn_ne_nil ' ' _ (List.map_eq_nil_iff.1 hnil)

/-- A space begins a word, and any other character goes into the first one, if it is kept. -/
theorem words_cons (h : c ≠ '{') : words (c :: segment) =
    if c = ' ' then [] :: words segment
    else (words segment).modifyHead ((if isAlphanumeric c then [c] else []) ++ ·) := by
  have hvisible : (c :: segment).takeWhile (· != '{') = c :: segment.takeWhile (· != '{') := by
    rw [List.takeWhile_cons, if_pos (bne_iff_ne.2 h)]
  obtain ⟨first, rest, hsplit⟩ := List.exists_cons_of_ne_nil
    (List.splitOn_ne_nil ' ' (segment.takeWhile (· != '{')))
  rw [words, hvisible, List.splitOn_cons_eq_if_modifyHead, words, hsplit]
  by_cases hspace : c = ' '
  · rw [if_pos hspace, if_pos (beq_iff_eq.2 hspace)]
    rfl
  · rw [if_neg hspace, if_neg fun h => hspace (beq_iff_eq.1 h)]
    cases hc : isAlphanumeric c <;> simp [hc]

/-- Nothing behind an opening brace is kept. -/
theorem segmentText_cons_brace : segmentText capital ('{' :: segment) = [] := by
  cases capital <;> rfl

/-- A space asks for a capital. -/
theorem segmentText_cons_space :
    segmentText capital (' ' :: segment) = segmentText true segment := by
  obtain ⟨first, rest, hwords⟩ := exists_words_eq segment
  rw [segmentText, segmentText, words_cons (by decide), if_pos rfl, hwords]
  cases capital <;> rfl

/-- A letter or numeral is kept, and the capital is then no longer asked for. -/
theorem segmentText_cons_of_alphanumeric (hopen : c ≠ '{') (hspace : c ≠ ' ')
    (hc : isAlphanumeric c = true) : segmentText capital (c :: segment) =
      (if capital then upper c else [c]) ++ segmentText false segment := by
  obtain ⟨first, rest, hwords⟩ := exists_words_eq segment
  rw [segmentText, segmentText, words_cons hopen, if_neg hspace, if_pos hc, hwords]
  cases capital <;> simp [joinWords, capitalize]

/-- Any other character is dropped. -/
theorem segmentText_cons_of_not_alphanumeric (hopen : c ≠ '{') (hspace : c ≠ ' ')
    (hc : isAlphanumeric c = false) :
    segmentText capital (c :: segment) = segmentText capital segment := by
  obtain ⟨first, rest, hwords⟩ := exists_words_eq segment
  rw [segmentText, segmentText, words_cons hopen, if_neg hspace,
    if_neg (Bool.eq_false_iff.1 hc), hwords]
  rfl

theorem splitOn_cons_of_eq {s : List Char} (d : Char) (h : s.splitOn d = first :: rest) :
    (c :: s).splitOn d = if c = d then [] :: first :: rest else (c :: first) :: rest := by
  rw [List.splitOn_cons_eq_if_modifyHead, h]
  simp

/-- What is kept of a sentence is what its segments give.  The two flags belong to the first
segment: inside braces nothing more of it is kept, and else `capital` asks for a capital in its
first word. -/
theorem keep_eq {s : List Char} (h : s.splitOn '}' = first :: rest) : keep capital inside s =
    (if inside then [] else segmentText capital first) ++
      rest.flatMap fun segment => '_' :: segmentText true segment := by
  induction s generalizing capital inside first rest with
  | nil =>
      obtain ⟨rfl, rfl⟩ := List.cons.inj h
      cases inside <;> cases capital <;> rfl
  | cons c s ih =>
      obtain ⟨front, behind, hsplit⟩ := List.exists_cons_of_ne_nil (List.splitOn_ne_nil '}' s)
      rw [splitOn_cons_of_eq '}' hsplit] at h
      rw [keep]
      by_cases hopen : c = '{'
      · subst hopen
        obtain ⟨rfl, rfl⟩ := List.cons.inj h
        rw [if_pos rfl, ih hsplit, segmentText_cons_brace, ite_self, if_pos rfl]
      rw [if_neg hopen]
      by_cases hclose : c = '}'
      · rw [if_pos hclose] at h ⊢
        obtain ⟨rfl, rfl⟩ := List.cons.inj h
        rw [ih hsplit]
        cases inside <;> cases capital <;> rfl
      rw [if_neg hclose] at h ⊢
      obtain ⟨rfl, rfl⟩ := List.cons.inj h
      by_cases hspace : c = ' '
      · subst hspace
        rw [if_pos rfl, ih hsplit, segmentText_cons_space]
      rw [if_neg hspace]
      cases hc : isAlphanumeric c with
      | false =>
          rw [Bool.false_and, if_neg Bool.false_ne_true, ih hsplit,
            segmentText_cons_of_not_alphanumeric hopen hspace hc]
      | true =>
          cases inside with
          | true =>
              rw [Bool.not_true, Bool.and_false, if_neg Bool.false_ne_true, ih hsplit,
                if_pos rfl, if_pos rfl]
          | false =>
              rw [segmentText_cons_of_alphanumeric hopen hspace hc, Bool.not_false, Bool.and_true,
                if_pos rfl, ih hsplit, if_neg Bool.false_ne_true, if_neg Bool.false_ne_true,
                List.append_assoc]

end step

/-! ## whole sentences -/

section sentence

variable {sentence : String} {identifier : Identifier}

theorem ofSegments_eq (s : List Char) : ofSegments s = keep false false s := by
  obtain ⟨first, rest, hsplit⟩ := List.exists_cons_of_ne_nil (List.splitOn_ne_nil '}' s)
  rw [ofSegments, keep_eq hsplit, hsplit]
  rfl

/-- The text of an identifier is what is kept of its sentence, behind a `d` if a numeral comes
first. -/
theorem ofSentence_eq_ok_iff : ofSentence sentence = .ok identifier ↔
    blank sentence.toList = false ∧ keep false false sentence.toList ≠ [] ∧
      (identifier.digitPrefixed = true ↔
        ∃ c ∈ (keep false false sentence.toList).head?, isNumeral c = true) ∧
      identifier.text.toList = (if identifier.digitPrefixed then ['d'] else []) ++
        keep false false sentence.toList := by
  obtain ⟨text, digitPrefixed⟩ := identifier
  have htext (s : List Char) : String.ofList s = text ↔ text.toList = s :=
    ⟨fun h => h ▸ String.toList_ofList, fun h => h ▸ String.ofList_toList⟩
  rw [ofSentence]
  cases hblank : blank sentence.toList with
  | true => simp
  | false =>
      cases hkeep : keep false false sentence.toList with
      | nil => simp
      | cons c rest =>
          cases hnumeral : isNumeral c <;> cases digitPrefixed <;>
            simp [hnumeral, htext, -String.ofList_cons]

/-- **Identifiers are made segment by segment.**

1. A sentence is refused as blank just if all its characters are.
2. One that is not blank is refused for want of letters and numerals just if its segments give
   nothing.
3. Any other sentence gives what its segments give, with a `d` in front just if that starts with a
   numeral. -/
theorem ofSentence_segmentwise (sentence : String) :
    (ofSentence sentence = .error .blank ↔ ∀ c ∈ sentence.toList, isBlank c = true) ∧
    (ofSentence sentence = .error (.noIdentifierCharacters sentence) ↔
      (∃ c ∈ sentence.toList, isBlank c = false) ∧ ofSegments sentence.toList = []) ∧
    ∀ identifier, ofSentence sentence = .ok identifier ↔
      (∃ c ∈ sentence.toList, isBlank c = false) ∧ ofSegments sentence.toList ≠ [] ∧
        (identifier.digitPrefixed = true ↔
          ∃ c ∈ (ofSegments sentence.toList).head?, isNumeral c = true) ∧
        identifier.text.toList =
          (if identifier.digitPrefixed then ['d'] else []) ++ ofSegments sentence.toList := by
  rw [ofSegments_eq, ← blank_eq_true_iff, ← blank_eq_false_iff]
  refine ⟨?_, ?_, fun identifier => ofSentence_eq_ok_iff⟩
  all_goals
    rw [ofSentence]
    cases blank sentence.toList with
    | true => simp
    | false =>
        cases keep false false sentence.toList with
        | nil => simp
        | cons c rest => cases hnumeral : isNumeral c <;> simp [hnumeral]

example : ofSegments "a\x7bx y\x7db c\x7d".toList = "a_BC_".toList := by rfl

end sentence

end Phrasebook.Identifier
