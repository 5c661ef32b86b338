import Phrasebook.Proofs.Lexemes

/-!
# Phrasebook.Proofs.LongestMatch

The tokens of a text are the longest ones (`tokens_are_longest`).

1. The end of the text is returned again and again (`Cursor.steps_tokens`).
2. What the kind of a lexeme says of its text, and what the first characters say of its kind
   (`LongestMatch`): for each of the first characters a lexeme is at hand, and there is no other.
-/

namespace Phrasebook

open Text TokenKind

/-! ## behind the end of a text -/

namespace Cursor

/-- At the end of a text every step returns the end. -/
theorem steps_nil (count offset : Nat) :
    (Cursor.mk offset []).steps count = List.replicate count ⟨.endOfText, ⟨offset, 0⟩⟩ := by
  induction count with
  | zero => rfl
  | succ count ih => exact congrArg (Token.mk .endOfText ⟨offset, 0⟩ :: ·) ih

/-- Behind the tokens of a text every step returns the end. -/
theorem steps_tokens (p : Cursor) (count : Nat) :
    p.steps (p.tokens.length + count) =
      p.tokens ++ List.replicate count ⟨.endOfText, ⟨p.offset + byteSize p.rest, 0⟩⟩ := by
  fun_induction tokens p with
  | case1 p hp =>
      obtain ⟨offset, rest⟩ := p
      obtain rfl : rest = [] := hp
      rw [List.length_singleton, Nat.add_comm]
      exact congrArg (Token.mk .endOfText ⟨offset, 0⟩ :: ·) (steps_nil count offset)
  | case2 p c s hp ih =>
      obtain ⟨piece, hrest, -, -, hoffset⟩ := exists_piece hp
      have hend : p.next.2.offset + byteSize p.next.2.rest = p.offset + byteSize p.rest := by
        rw [hoffset, hrest, byteSize_append, Nat.add_assoc]
      rw [List.length_cons, Nat.add_right_comm, steps, ih, hend, List.cons_append]

end Cursor

/-! ## kinds and first characters -/

/-- A kind of token that is spelled as a name. -/
def TokenKind.isName : TokenKind → Bool
  | .identifier _ | .boolean _ | .null => true
  | _ => false

/-- A digit comes next, or a minus sign with a digit behind it. -/
def StartsNumber (s : List Char) : Prop :=
  ∃ negative c t, c.isDigit = true ∧ s = NumberLiteral.withSign negative (c :: t)

/-- What the kind of a token and the first characters of its text say of it, where `behind` stands
behind it. -/
structure LongestMatch (kind : TokenKind) (s behind : List Char) : Prop where
  /-- Blanks are as many as there are. -/
  blank : kind = .blank → s ≠ [] ∧ (∀ c ∈ s, isBlank c = true) ∧ EndsBefore isBlank behind
  /-- A name goes on as long as it can. -/
  name : kind.isName = true → IsName s ∧ EndsBefore isNamePart behind
  keyword : ∀ word keyword, (word, keyword) ∈ keywords → (kind = keyword ↔ s = word)
  identifier : ∀ name, kind = .identifier name → s = name.toList
  /-- What begins as a number is the longest one, and known as a number unless its exponent has no
  digits. -/
  number : StartsNumber (s ++ behind) → ∃ n : NumberLiteral,
    n.Spelled s ∧ NumberLiteral.Longest s behind ∧
      (n.Finished ∧ (∃ value, kind = .number value) ∨ ¬ n.Finished ∧ kind = .unknown)
  /-- A line comment goes up to the next line feed. -/
  lineComment : ∀ rest, s ++ behind = '/' :: '/' :: rest → ∃ body, s = '/' :: '/' :: body ∧
    '\n' ∉ body ∧ EndsBefore (· != '\n') behind ∧ kind = .comment (String.ofList (trim body))
  /-- A block comment goes up to the first end behind its opening. -/
  blockComment : ∀ rest, s ++ behind = '/' :: '*' :: rest →
    Endless rest ∧ s = '/' :: '*' :: rest ∧ kind = .unterminatedComment ∨
    ¬ Endless rest ∧ ∃ body, s = '/' :: '*' :: (body ++ ['*', '/']) ∧ CommentBody body ∧
      kind = .comment (String.ofList (trim body))
  /-- There are no other comments. -/
  comment : kind = .unterminatedComment ∨ (∃ text, kind = .comment text) →
    ∃ rest, s = '/' :: '/' :: rest ∨ s = '/' :: '*' :: rest
  punctuation : ∀ c mark, (c, mark) ∈ punctuation → (kind = mark ↔ s = [c])
  /-- Any other character is a token by itself. -/
  unknown : kind = .unknown → ¬ StartsNumber (s ++ behind) → ∃ c, s = [c] ∧ StartsNothing c behind

section clauses

variable {c : Char} {kind mark : TokenKind} {s behind rest word : List Char}

/-- Blanks are as many as there are. -/
theorem longest_blank (h : Lexeme .blank s behind) :
    s ≠ [] ∧ (∀ c ∈ s, isBlank c = true) ∧ EndsBefore isBlank behind := by
  cases h with
  | blank hne hblank hbehind => exact ⟨hne, hblank, hbehind⟩
  | punctuation hc => simp [punctuation] at hc
  | keyword hword _ => simp [keywords] at hword

/-- A name goes on as long as it can. -/
theorem longest_name (h : Lexeme kind s behind) (hkind : kind.isName = true) :
    IsName s ∧ EndsBefore isNamePart behind := by
  cases h with
  | keyword hword hbehind => exact ⟨(ofName_of_mem hword).1, hbehind⟩
  | identifier hname _ hbehind => exact ⟨hname, hbehind⟩
  | punctuation hc =>
      have hnone : ∀ p ∈ punctuation, p.2.isName = false := by decide
      cases (hnone _ hc).symm.trans hkind
  | _ => cases hkind

/-- What a name is known as, its text tells. -/
theorem eq_ofName (h : Lexeme kind s behind) (hs : IsName s) : kind = ofName s := by
  obtain ⟨c, rest, rfl, hc, -⟩ := hs
  have hscan := scan_of_lexeme h
  rw [scan_of_isNameStart hc] at hscan
  obtain ⟨hkind, hbehind⟩ := Prod.mk.inj hscan
  have hsplit := @List.takeWhile_append_dropWhile _ isNamePart (rest ++ behind)
  rw [hbehind] at hsplit
  rw [← hkind, List.append_cancel_right hsplit]

/-- A token is a keyword where its text is one, and only there. -/
theorem eq_keyword_iff (h : Lexeme kind s behind) (hword : (word, mark) ∈ keywords) :
    kind = mark ↔ s = word := by
  constructor
  · rintro rfl
    simp only [keywords, List.mem_cons, Prod.mk.injEq, List.not_mem_nil, or_false] at hword
    obtain ⟨rfl, rfl⟩ | ⟨rfl, rfl⟩ | ⟨rfl, rfl⟩ := hword
    all_goals
      cases h with
      | keyword hword' _ => simpa [keywords] using hword'
      | punctuation hc => simp [punctuation] at hc
  · rintro rfl
    obtain ⟨hname, hkeyword⟩ := ofName_of_mem hword
    rw [eq_ofName h hname, hkeyword]

theorem eq_punctuation_iff (h : Lexeme kind s behind) (hmark : (c, mark) ∈ punctuation) :
    kind = mark ↔ s = [c] := by
  constructor
  · rintro rfl
    simp only [punctuation, List.mem_cons, Prod.mk.injEq, List.not_mem_nil, or_false] at hmark
    obtain ⟨rfl, rfl⟩ | ⟨rfl, rfl⟩ | ⟨rfl, rfl⟩ | ⟨rfl, rfl⟩ | ⟨rfl, rfl⟩ | ⟨rfl, rfl⟩ := hmark
    all_goals
      cases h with
      | punctuation hc => simpa [punctuation] using hc
      | keyword hword _ => simp [keywords] at hword
  · rintro rfl
    exact (h.unique (.punctuation hmark) rfl).1

theorem longest_number (h : Lexeme kind s behind) (hstart : StartsNumber (s ++ behind)) :
    ∃ n : NumberLiteral, n.Spelled s ∧ NumberLiteral.Longest s behind ∧
      (n.Finished ∧ (∃ value, kind = .number value) ∨ ¬ n.Finished ∧ kind = .unknown) := by
  obtain ⟨negative, c, t, hc, htext⟩ := hstart
  obtain ⟨taken, ht, hspelled, hlongest⟩ := NumberLiteral.longest_scan negative hc t
  generalize NumberLiteral.scan negative (c :: t) = read at ht hspelled hlongest
  rw [ht, ← List.cons_append, ← NumberLiteral.withSign_append] at htext
  obtain ⟨rfl, rfl, rfl⟩ := h.unique (lexeme_number hspelled hlongest) htext
  refine ⟨read.1, hspelled, hlongest,
    (ofNumber_cases read.1).imp_left fun ⟨hfinished, value, _, hkind⟩ => ?_⟩
  exact ⟨hfinished, value, hkind⟩

theorem longest_lineComment (h : Lexeme kind s behind) (htext : s ++ behind = '/' :: '/' :: rest) :
    ∃ body, s = '/' :: '/' :: body ∧ '\n' ∉ body ∧ EndsBefore (· != '\n') behind ∧
      kind = .comment (String.ofList (trim body)) := by
  obtain ⟨hline, hbehind⟩ := exists_line rest
  rw [← @List.takeWhile_append_dropWhile _ (· != '\n') rest, ← List.cons_append,
    ← List.cons_append] at htext
  obtain ⟨rfl, rfl, rfl⟩ := h.unique (.lineComment hline hbehind) htext
  exact ⟨_, rfl, hline, hbehind, rfl⟩

theorem longest_blockComment (h : Lexeme kind s behind) (htext : s ++ behind = '/' :: '*' :: rest) :
    Endless rest ∧ s = '/' :: '*' :: rest ∧ kind = .unterminatedComment ∨
    ¬ Endless rest ∧ ∃ body, s = '/' :: '*' :: (body ++ ['*', '/']) ∧ CommentBody body ∧
      kind = .comment (String.ofList (trim body)) := by
  obtain ⟨body, after, -, rfl, hbody⟩ | ⟨-, hendless⟩ := splitAtCommentEnd_cases rest
  · have hcomment : '/' :: '*' :: (body ++ '*' :: '/' :: after) =
        '/' :: '*' :: (body ++ ['*', '/']) ++ after := by
      simp
    obtain ⟨rfl, rfl, rfl⟩ := h.unique (.blockComment hbody) (htext.trans hcomment)
    exact .inr ⟨fun hendless => hendless body _ rfl, body, rfl, hbody, rfl⟩
  · rw [← List.append_nil rest] at htext
    obtain ⟨rfl, rfl, rfl⟩ := h.unique (.unterminatedComment hendless) htext
    exact .inl ⟨hendless, rfl, rfl⟩

theorem starts_of_comment (h : Lexeme kind s behind)
    (hkind : kind = .unterminatedComment ∨ ∃ text, kind = .comment text) :
    ∃ rest, s = '/' :: '/' :: rest ∨ s = '/' :: '*' :: rest := by
  obtain rfl | ⟨text, rfl⟩ := hkind
  · cases h with
    | unterminatedComment => exact ⟨_, .inr rfl⟩
    | punctuation hc => simp [punctuation] at hc
    | keyword hword _ => simp [keywords] at hword
  · cases h with
    | lineComment => exact ⟨_, .inl rfl⟩
    | blockComment => exact ⟨_, .inr rfl⟩
    | punctuation hc => simp [punctuation] at hc
    | keyword hword _ => simp [keywords] at hword

theorem startsNothing_of_unknown (h : Lexeme .unknown s behind)
    (hnumber : ¬ StartsNumber (s ++ behind)) : ∃ c, s = [c] ∧ StartsNothing c behind := by
  cases h with
  | unknown hc => exact ⟨_, rfl, hc⟩
  | unfinishedNumber hspelled _ _ =>
      obtain ⟨u, hu, rfl⟩ := hspelled
      obtain ⟨c, t, rfl, hc⟩ := NumberLiteral.exists_digit hu
      rw [NumberLiteral.withSign_append] at hnumber
      exact absurd ⟨_, c, _, hc, rfl⟩ hnumber
  | punctuation hc => simp [punctuation] at hc
  | keyword hword _ => simp [keywords] at hword

/-- Lexemes are longest matches. -/
theorem longestMatch_of_lexeme (h : Lexeme kind s behind) : LongestMatch kind s behind where
  blank hkind := longest_blank (hkind ▸ h)
  name := longest_name h
  keyword _ _ hword := eq_keyword_iff h hword
  identifier := by
    rintro name rfl
    cases h with
    | identifier => rw [String.toList_ofList]
    | punctuation hc => simp [punctuation] at hc
    | keyword hword _ => simp [keywords] at hword
  number := longest_number h
  lineComment _ := longest_lineComment h
  blockComment _ := longest_blockComment h
  comment := starts_of_comment h
  punctuation _ _ hmark := eq_punctuation_iff h hmark
  unknown hkind := startsNothing_of_unknown (hkind ▸ h)

end clauses

/-! ## the tokens of a text -/

/-- A text has at most one token more than it has characters. -/
theorem Tiles.length_le {offset : Nat} {rest : List Char} {ts : List Token}
    (h : Tiles offset rest ts) : ts.length ≤ rest.length + 1 := by
  induction h with
  | last => exact Nat.le_refl _
  | cons _ hpiece _ _ ih =>
      have hpos := List.length_pos_iff.2 hpiece
      rw [List.length_cons, List.length_append]
      omega

/-- **The tokens of a text are the longest ones.**

1. They tile the text up to its end, each between two characters, and are at most one more than the
   characters.
2. Behind them every step returns the end of the text.
3. Each is a lexeme where it stands, and so a longest match.
4. There is no other way to cut the text into lexemes. -/
theorem tokens_are_longest (text : String) :
    (Tiles 0 text.toList (tokenize text) ∧ (∀ t ∈ tokenize text, t.span.Marks text.toList) ∧
      (tokenize text).length ≤ text.toList.length + 1) ∧
    (∀ count, (Cursor.ofString text).steps ((tokenize text).length + count) =
      tokenize text ++ List.replicate count ⟨.endOfText, ⟨byteSize text.toList, 0⟩⟩) ∧
    (∀ t ∈ tokenize text, t.kind ≠ .endOfText →
      ∃ before s behind, text.toList = before ++ s ++ behind ∧
        t.span = ⟨byteSize before, byteSize s⟩ ∧ Lexeme t.kind s behind ∧
        LongestMatch t.kind s behind) ∧
    ∀ ts, Tokenizes 0 text.toList ts ↔ ts = tokenize text := by
  have htiles : Tiles 0 text.toList (tokenize text) := (Cursor.ofString text).tiles_tokens
  refine ⟨⟨htiles, (inOrder_tokenize text).marks, htiles.length_le⟩,
    fun count => ?_, fun t ht hkind => ?_, tokenizes_iff text⟩
  · have hsteps := (Cursor.ofString text).steps_tokens count
    rwa [Cursor.ofString, Nat.zero_add] at hsteps
  · obtain ⟨before, s, behind, htext, hlexes⟩ := exists_lexes_of_mem ht hkind
    have hlexeme := lexeme_of_lexes hlexes
    exact ⟨before, s, behind, htext, hlexes.span_eq, hlexeme, longestMatch_of_lexeme hlexeme⟩

/-- A number whose exponent has no digits, a name behind it, and a comment with no end. -/
def gluedText : String := "-1.e+x/*/"

theorem tokens_are_longest_gluedText :
    let ts : List Token :=
      [⟨.unknown, ⟨0, 5⟩⟩, ⟨.identifier "x", ⟨5, 1⟩⟩, ⟨.unterminatedComment, ⟨6, 3⟩⟩,
        ⟨.endOfText, ⟨9, 0⟩⟩]
    (∀ us, Tokenizes 0 gluedText.toList us ↔ us = ts) ∧
      (Cursor.ofString gluedText).steps 5 = ts ++ [⟨.endOfText, ⟨9, 0⟩⟩] := by
  intro ts
  have htokens : tokenize gluedText = ts := by decide +kernel
  obtain ⟨-, hsteps, -, hunique⟩ := tokens_are_longest gluedText
  have hlast := hsteps 1
  rw [htokens] at hunique hlast
  exact ⟨hunique, hlast⟩

end Phrasebook
