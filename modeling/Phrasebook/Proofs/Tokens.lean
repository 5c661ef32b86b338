import Phrasebook.Token.Lexer

/-!
# Phrasebook.Proofs.Tokens

The tokens of a text.

The end of the text is marked by a token of its own, which stands once and behind all others:
`scan`, which reads the token that a character starts, never returns it.
-/

namespace Phrasebook

/-! ## the token that a character starts -/

namespace TokenKind

/-- Whether a kind of token starts with another character than a quote. -/
def isUnquoted : TokenKind → Bool
  | endOfText | string _ | unterminatedString | invalidEscape _ => false
  | _ => true

theorem isUnquoted_ofName (name : List Char) : (ofName name).isUnquoted = true := by
  unfold ofName
  split
  · rfl
  · split
    · rfl
    · split <;> rfl

theorem isUnquoted_ofNumber (n : NumberLiteral) : (ofNumber n).isUnquoted = true := by
  unfold ofNumber
  split <;> rfl

theorem isUnquoted_scanBlockComment (s : List Char) : (scanBlockComment s).1.isUnquoted = true := by
  unfold scanBlockComment
  split <;> rfl

theorem isUnquoted_scanSlash (s : List Char) : (scanSlash s).1.isUnquoted = true := by
  unfold scanSlash
  split
  · rfl
  · exact isUnquoted_scanBlockComment _
  · rfl

theorem isUnquoted_scanMinus (s : List Char) : (scanMinus s).1.isUnquoted = true := by
  unfold scanMinus
  split
  · exact isUnquoted_ofNumber _
  · rfl

theorem isUnquoted_scanWord (c : Char) (s : List Char) : (scanWord c s).1.isUnquoted = true := by
  unfold scanWord
  split
  · rfl
  · split
    · exact isUnquoted_ofName _
    · split
      · exact isUnquoted_ofNumber _
      · rfl

/-- A token starts with a quote and is what a string literal is read as, or it is of another
kind. -/
theorem scan_cases (c : Char) (s : List Char) :
    (c = '"' ∨ c = '\'') ∧ scan c s = scanString c s ∨ (scan c s).1.isUnquoted = true := by
  unfold scan
  split
  case h_7 => exact .inr (isUnquoted_scanSlash s)
  case h_8 => exact .inl ⟨.inl rfl, rfl⟩
  case h_9 => exact .inl ⟨.inr rfl, rfl⟩
  case h_10 => exact .inr (isUnquoted_scanMinus s)
  case h_11 => exact .inr (isUnquoted_scanWord _ s)
  all_goals exact .inr rfl

theorem scanString_ne_endOfText (quote : Char) (s : List Char) :
    (scanString quote s).1 ≠ .endOfText := by
  unfold scanString
  split <;> exact TokenKind.noConfusion

/-- No character starts the token that marks the end of the text. -/
theorem scan_ne_endOfText (c : Char) (s : List Char) : (scan c s).1 ≠ .endOfText := by
  obtain ⟨-, hstring⟩ | hunquoted := scan_cases c s
  · rw [hstring]
    exact scanString_ne_endOfText c s
  · intro hend
    rw [hend] at hunquoted
    cases hunquoted

end TokenKind

/-! ## the tokens of a text -/

/-- The end of the text is marked once, behind all other tokens. -/
theorem Cursor.tokens_eq_append (p : Cursor) :
    ∃ us e, p.tokens = us ++ [e] ∧ e.kind = .endOfText ∧ ∀ t ∈ us, t.kind ≠ .endOfText := by
  fun_induction Cursor.tokens p with
  | case1 p hp =>
      refine ⟨[], p.next.1, rfl, ?_, by simp⟩
      rw [next, hp]
  | case2 p c s hp ih =>
      obtain ⟨us, e, heq, he, hus⟩ := ih
      refine ⟨p.next.1 :: us, e, by rw [heq, List.cons_append], he, ?_⟩
      rw [List.forall_mem_cons]
      refine ⟨?_, hus⟩
      rw [next, hp]
      exact TokenKind.scan_ne_endOfText c s

/-- The tokens of a text that are not trivia. -/
def significantTokens (text : String) : List Token := (tokenize text).filter (!·.isTrivia)

theorem significantTokens_eq_append (text : String) :
    ∃ us e, significantTokens text = us ++ [e] ∧ e.kind = .endOfText ∧
      ∀ t ∈ us, t.kind ≠ .endOfText := by
  obtain ⟨us, e, heq, he, hus⟩ := (Cursor.ofString text).tokens_eq_append
  refine ⟨us.filter (!·.isTrivia), e, ?_, he, fun t ht => hus t (List.mem_filter.1 ht).1⟩
  have hkeep : (!e.isTrivia) = true := by rw [Token.isTrivia, he]; rfl
  rw [significantTokens, tokenize, heq, List.filter_append]
  exact congrArg _ (List.filter_cons_of_pos hkeep)

/-- Where the end of the text stands last only, no tokens are behind it. -/
theorem eq_nil_of_endOfText {us front rest : List Token} {e t : Token}
    (hus : ∀ u ∈ us, u.kind ≠ .endOfText) (heq : us ++ [e] = front ++ t :: rest)
    (ht : t.kind = .endOfText) : us = front ∧ rest = [] := by
  obtain rfl | ⟨rest, last, rfl⟩ := List.eq_nil_or_concat rest
  · exact ⟨(List.append_inj' heq rfl).1, rfl⟩
  · rw [List.concat_eq_append, ← List.cons_append, ← List.append_assoc] at heq
    obtain ⟨rfl, -⟩ := List.append_inj' heq rfl
    exact absurd ht (hus t (by simp))

end Phrasebook
